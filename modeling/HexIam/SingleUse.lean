import Mathlib.Order.Basic

/-!
# Check, then spend

A ticket may be used once.  A holder first checks that the ticket is not spent
and later spends it, and the check takes no lock: between the two steps others
may check the same ticket.  This file treats the runs in which nobody checks a
ticket while another holder has checked it and not spent it yet.  There at most
one holder ever spends a ticket.
-/

namespace SingleUse

/-- Who has checked which tickets and is about to spend them, who has spent
which, and which tickets are spent. -/
structure Holdings (Holder Ticket : Type*) where
  pending : Holder → Ticket → Prop
  redeemed : Holder → Ticket → Prop
  spent : Ticket → Prop

variable {Holder Ticket : Type*} {before after : Holdings Holder Ticket}

/-- At most one holder has spent a ticket or is about to. -/
structure Exclusive (holdings : Holdings Holder Ticket) : Prop where
  isSpent : ∀ holder ticket, holdings.redeemed holder ticket →
    holdings.spent ticket
  alone : ∀ holder other ticket, holdings.pending holder ticket →
    holdings.pending other ticket → holder = other
  fresh : ∀ holder other ticket, holdings.pending holder ticket →
    ¬ holdings.redeemed other ticket
  once : ∀ holder other ticket, holdings.redeemed holder ticket →
    holdings.redeemed other ticket → holder = other

/-- Nobody holds anything. -/
theorem exclusive_of_none
    (nonePending : ∀ holder ticket, ¬ before.pending holder ticket)
    (noneRedeemed : ∀ holder ticket, ¬ before.redeemed holder ticket) :
    Exclusive before where
  isSpent holder ticket redeemed := absurd redeemed (noneRedeemed holder ticket)
  alone holder _ ticket pending := absurd pending (nonePending holder ticket)
  fresh holder _ ticket pending := absurd pending (nonePending holder ticket)
  once holder _ ticket redeemed := absurd redeemed (noneRedeemed holder ticket)

namespace Exclusive

/-- A step that only drops claims. -/
theorem keeps (exclusive : Exclusive before)
    (pending : ∀ holder ticket, after.pending holder ticket →
      before.pending holder ticket)
    (redeemed : ∀ holder ticket, after.redeemed holder ticket →
      before.redeemed holder ticket)
    (spent : ∀ ticket, before.spent ticket → after.spent ticket) :
    Exclusive after where
  isSpent holder ticket found :=
    spent ticket (exclusive.isSpent holder ticket (redeemed holder ticket found))
  alone holder other ticket first second :=
    exclusive.alone holder other ticket (pending holder ticket first)
      (pending other ticket second)
  fresh holder other ticket first second :=
    exclusive.fresh holder other ticket (pending holder ticket first)
      (redeemed other ticket second)
  once holder other ticket first second :=
    exclusive.once holder other ticket (redeemed holder ticket first)
      (redeemed other ticket second)

/-- A holder checks a ticket that is not spent while nobody else is about to
spend it. -/
theorem check (exclusive : Exclusive before) (claimant : Holder)
    {claimed : Ticket}
    (unspent : ¬ before.spent claimed)
    (undisturbed : ∀ other, before.pending other claimed → other = claimant)
    (pending : ∀ holder ticket, after.pending holder ticket →
      before.pending holder ticket ∨ holder = claimant ∧ ticket = claimed)
    (redeemed : ∀ holder ticket, after.redeemed holder ticket →
      before.redeemed holder ticket)
    (spent : ∀ ticket, before.spent ticket → after.spent ticket) :
    Exclusive after where
  isSpent holder ticket found :=
    spent ticket (exclusive.isSpent holder ticket (redeemed holder ticket found))
  alone holder other ticket first second := by
    rcases pending holder ticket first with first | ⟨rfl, rfl⟩ <;>
      rcases pending other ticket second with second | ⟨rfl, same⟩
    · exact exclusive.alone holder other ticket first second
    · exact undisturbed holder (same ▸ first)
    · exact (undisturbed other second).symm
    · rfl
  fresh holder other ticket first second := by
    have second := redeemed other ticket second
    rcases pending holder ticket first with first | ⟨-, rfl⟩
    · exact exclusive.fresh holder other ticket first second
    · exact unspent (exclusive.isSpent other ticket second)
  once holder other ticket first second :=
    exclusive.once holder other ticket (redeemed holder ticket first)
      (redeemed other ticket second)

/-- A holder spends a ticket it was about to spend. -/
theorem spend {claimant : Holder} {claimed : Ticket}
    (exclusive : Exclusive before)
    (wasPending : before.pending claimant claimed)
    (pending : ∀ holder ticket, after.pending holder ticket →
      before.pending holder ticket ∧ ¬ (holder = claimant ∧ ticket = claimed))
    (redeemed : ∀ holder ticket, after.redeemed holder ticket →
      before.redeemed holder ticket ∨ holder = claimant ∧ ticket = claimed)
    (spent : ∀ ticket, before.spent ticket → after.spent ticket)
    (isSpent : after.spent claimed) : Exclusive after where
  isSpent holder ticket found := by
    rcases redeemed holder ticket found with found | ⟨-, rfl⟩
    · exact spent ticket (exclusive.isSpent holder ticket found)
    · exact isSpent
  alone holder other ticket first second :=
    exclusive.alone holder other ticket (pending holder ticket first).1
      (pending other ticket second).1
  fresh holder other ticket first second := by
    obtain ⟨first, away⟩ := pending holder ticket first
    rcases redeemed other ticket second with second | ⟨rfl, rfl⟩
    · exact exclusive.fresh holder other ticket first second
    · exact away ⟨exclusive.alone holder other ticket first wasPending, rfl⟩
  once holder other ticket first second := by
    rcases redeemed holder ticket first with first | ⟨rfl, rfl⟩ <;>
      rcases redeemed other ticket second with second | ⟨rfl, same⟩
    · exact exclusive.once holder other ticket first second
    · exact absurd (same ▸ first)
        (exclusive.fresh other holder claimed wasPending)
    · exact absurd second (exclusive.fresh holder other ticket wasPending)
    · rfl

end Exclusive

end SingleUse
