import TrivialFtp.Net.Endpoint

/-!
# Rosters

Which clients a server has transfers for.  A transfer is known by a ticket; the roster finds the
ticket of a client, to turn away a request that is sent again, and the client of a ticket, to
strike off a transfer that has ended.

- `contains_enrol`, `contains_strike`: whom a roster holds after each change.
-/

namespace TrivialFtp

/-- Clients and tickets, found by either. -/
structure Roster where
  byClient : List (Endpoint × Nat) := []
  byTicket : List (Nat × Endpoint) := []
  deriving DecidableEq, Repr

namespace Roster

/-- A client has a ticket. -/
def contains (roster : Roster) (client : Endpoint) : Bool :=
  roster.byClient.any fun e => e.1 = client

/-- The client of a ticket. -/
def client? (roster : Roster) (ticket : Nat) : Option Endpoint :=
  (roster.byTicket.find? fun e => e.1 = ticket).map Prod.snd

/-- Give a client a ticket. -/
def enrol (roster : Roster) (client : Endpoint) (ticket : Nat) : Roster where
  byClient := (client, ticket) :: roster.byClient.filter fun e => e.1 ≠ client
  byTicket := (ticket, client) :: roster.byTicket.filter fun e => e.1 ≠ ticket

/-- Strike off a ticket, however its transfer ended. -/
def strike (roster : Roster) (ticket : Nat) : Roster :=
  match roster.client? ticket with
  | none => roster
  | some client =>
    { byClient := roster.byClient.filter fun e => e.1 ≠ client
      byTicket := roster.byTicket.filter fun e => e.1 ≠ ticket }

theorem contains_enrol (roster : Roster) (client other : Endpoint) (ticket : Nat) :
    (roster.enrol client ticket).contains other =
      (decide (client = other) || roster.contains other) := by
  by_cases h : client = other
  · simp [enrol, contains, h]
  · have : ∀ e : Endpoint × Nat, (e.1 ≠ client ∧ e.1 = other) ↔ e.1 = other :=
      fun e => ⟨And.right, fun k => ⟨fun k' => h (k' ▸ k), k⟩⟩
    simp only [enrol, contains, List.any_cons, List.any_filter, ← Bool.decide_and, this]

theorem contains_strike (roster : Roster) (client other : Endpoint) (ticket : Nat)
    (h : roster.client? ticket = some client) :
    (roster.strike ticket).contains other = (decide (client ≠ other) && roster.contains other) := by
  by_cases k : client = other
  · simp [strike, h, contains, k]
  · have : ∀ e : Endpoint × Nat, (e.1 ≠ client ∧ e.1 = other) ↔ e.1 = other :=
      fun e => ⟨And.right, fun k' => ⟨fun k'' => k (k'' ▸ k'), k'⟩⟩
    simp only [strike, h, contains, List.any_filter, ← Bool.decide_and, this, ne_eq, k,
      not_false_eq_true, decide_true, Bool.true_and]

end Roster

end TrivialFtp
