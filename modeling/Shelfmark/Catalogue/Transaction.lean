import Shelfmark.Catalogue.Opening

/-!
# Transactions

Savepoints nest. Closing one keeps what was done since it was opened, or undoes it;
what is kept can still be undone by an outer one. A transaction is work between a
savepoint of its own and its end: kept when the work succeeds, undone when it
fails.
-/

namespace Shelfmark

namespace Catalogue

/-! ## Savepoints -/

/-- How many savepoints are open. -/
def depth (c : Catalogue) : Nat := c.savepoints.length

/-- Opens a savepoint. -/
def begin (c : Catalogue) : Catalogue := { c with savepoints := c.tables :: c.savepoints }

/-- Closes the innermost savepoint and keeps what was done since. -/
def commit (c : Catalogue) : Outcome Unit :=
  match c.savepoints with
  | [] => (.error (.storage .noTransaction), c)
  | _ :: outer => (.ok (), { c with savepoints := outer })

/-- Closes the innermost savepoint and undoes what was done since. The group types in
memory are loaded anew, so they never run ahead of the tables. -/
def rollback (c : Catalogue) : Outcome Unit :=
  match c.savepoints with
  | [] => (.error (.storage .noTransaction), c)
  | t :: outer =>
      let restored := { c with tables := t, savepoints := outer }
      match restored.reload with
      | .error fault => (.error fault, restored)
      | .ok reloaded => (.ok (), reloaded)

/-! ## Transactions -/

/-- Ends a transaction: what was done is undone after a failure, and kept otherwise. -/
def finish (c : Catalogue) (failed : Bool) : Outcome Unit := if failed then c.rollback else c.commit

/-- Does some work as a whole or not at all. A fault at the end of the transaction
hides the fault of the work. -/
def transaction {α : Type} (c : Catalogue) (work : Catalogue → Outcome α) : Outcome α :=
  match work c.begin with
  | (.ok a, after) =>
      match after.finish false with
      | (.ok _, done) => (.ok a, done)
      | (.error fault, done) => (.error fault, done)
  | (.error fault, after) =>
      match after.finish true with
      | (.ok _, restored) => (.error fault, restored)
      | (.error worse, restored) => (.error worse, restored)

end Catalogue

end Shelfmark
