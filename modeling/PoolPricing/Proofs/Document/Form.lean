import PoolPricing.Proofs.Document.Reading
import Mathlib.Algebra.Order.Field.Rat
import Mathlib.Data.Int.ConditionallyCompleteOrder
set_option autoImplicit false

/-!
The form of a document, said without the readers: which keys have to be there, which values they may
stand for and in which range. A part is of the form if and only if it describes something, which
then is what the reader makes of it.
-/

namespace PoolPricing

open PoolPricing.Document (Fields Value)

namespace Document.Fields

variable {fields : Fields} {key : String} {default n : Int} {range : Set Int}

theorem GivesOr.nonneg (h : fields.GivesOr key default n) (hdefault : 0 ≤ default) : 0 ≤ n := by
  rcases h with hgiven | ⟨_, rfl⟩
  · exact hgiven.2
  · exact hdefault

end Document.Fields

namespace Snapshot.Document

abbrev words : Set Int := Set.Icc 0 Word.greatest

end Snapshot.Document
end PoolPricing
