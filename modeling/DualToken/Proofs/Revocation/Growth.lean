import Mathlib.Tactic.ByContra
import DualToken.Proofs.Revocation.Store

/-!
# How the record grows

A store grows by tokens of some kind when it keeps what it held, and holds nothing new but tokens of
that kind (`RevocationStore.Grows`). Recording such a token is growth, and reading is growth by
nothing.

A store without faults answers every lookup, unless its table is gone, and the answer depends on
nothing but whether the token is held (`RevocationStore.lookup_eq_of_holds_iff`).
-/

set_option autoImplicit false

namespace DualToken.RevocationStore

variable {backend : RevocationBackend} {more : String → Prop}
  {before middle after : RevocationStore} {token : String}

/-! ## Growth -/

/-- The store keeps what it held, and all that it holds beside is of some kind. -/
structure Grows (backend : RevocationBackend) (more : String → Prop)
    (before after : RevocationStore) : Prop where
  /-- The table is there if it was. -/
  table : after.table.isSome = before.table.isSome
  kept {token : String} : before.Holds backend token → after.Holds backend token
  /-- What is held was held before, or it is new. -/
  added {token : String} : after.Holds backend token → before.Holds backend token ∨ more token

theorem Grows.refl (store : RevocationStore) : Grows backend more store store :=
  ⟨rfl, id, .inl⟩

theorem Grows.trans (first : Grows backend more before middle)
    (second : Grows backend more middle after) : Grows backend more before after := by
  refine ⟨second.table.trans first.table, second.kept ∘ first.kept, ?_⟩
  intro token holds
  rcases second.added holds with holds | new
  · exact first.added holds
  · exact .inr new

theorem SameRecords.table (same : before.SameRecords after) : after.table = before.table := by
  obtain ⟨server, rfl, -⟩ := same
  rfl

/-- Reading is growth by nothing. -/
theorem SameRecords.grows (same : before.SameRecords after) : Grows backend more before after :=
  ⟨congrArg Option.isSome same.table, same.holds_iff.2, fun holds => .inl (same.holds_iff.1 holds)⟩

/-- Recording a token is growth by this token, if no other writer is waiting. -/
theorem grows_record (new : more token) (now : Int) (alone : before.server.rivals = []) :
    Grows backend more before (before.record backend token now).2 := by
  refine ⟨?_, fun holds => holds.record token now, ?_⟩
  · cases backend with
    | table =>
      rw [record]
      cases present : before.table with
      | none => exact congrArg Option.isSome present
      | some table => rfl
    | redis => rfl
  · intro other holds
    by_cases same : other = token
    · exact .inr (same ▸ new)
    · by_contra absent
      rw [not_or] at absent
      exact not_holds_record now same alone absent.1 holds

/-- When the table is dropped, no token is held that was not. -/
theorem Holds.of_table {records : Option RevocationTable}
    (fewer : records = none ∨ records = before.table)
    (holds : Holds backend { before with table := records } token) :
    before.Holds backend token := by
  rcases fewer with rfl | rfl
  · cases backend with
    | table =>
      obtain ⟨table, present, -⟩ := holds
      exact absurd present nofun
    | redis => exact holds
  · exact holds

/-! ## Lookups without faults -/

/-- Without failures in waiting a lookup at the server is answered, and leaves none behind. -/
theorem exists_lookup_redis (quiet : before.server.failures = []) (token : String) :
    (∃ found, (before.lookup .redis token).1 = .ok found) ∧
      (before.lookup .redis token).2.server.failures = [] := by
  simp only [lookup, withServer, Redis.lookup, Redis.send, Program.run_act, Redis.Server.receive,
    quiet]
  exact ⟨⟨_, rfl⟩, rfl⟩

/-- Without failures in waiting a lookup of a token that is held is answered with yes. -/
theorem Holds.lookup (holds : before.Holds backend token) (quiet : before.server.failures = []) :
    (before.lookup backend token).1 = .ok true := by
  cases backend with
  | table =>
    obtain ⟨table, present, contains⟩ := holds
    simp only [RevocationStore.lookup, present, contains]
  | redis =>
    obtain ⟨⟨found, answered⟩, -⟩ := exists_lookup_redis quiet token
    rw [answered, (lookup_ok_iff answered).2 holds]

/-- A lookup leaves no failures behind where there are none. -/
theorem failures_lookup (quiet : before.server.failures = []) (token : String) :
    (before.lookup backend token).2.server.failures = [] := by
  cases backend with
  | table =>
    rw [lookup]
    cases before.table with
    | none => exact quiet
    | some table => exact quiet
  | redis => exact (exists_lookup_redis quiet token).2

/-- **Without faults the answer to a lookup depends only on whether the token is held**, and on
whether the table is there. -/
theorem lookup_eq_of_holds_iff (quiet : before.server.failures = [])
    (quiet' : after.server.failures = []) (table : after.table.isSome = before.table.isSome)
    (same : after.Holds backend token ↔ before.Holds backend token) :
    (after.lookup backend token).1 = (before.lookup backend token).1 := by
  have agree : ∀ found found' : Bool, (before.lookup backend token).1 = .ok found →
      (after.lookup backend token).1 = .ok found' → found' = found := by
    intro found found' answered answered'
    exact Bool.eq_iff_iff.2
      ((lookup_ok_iff answered').trans (same.trans (lookup_ok_iff answered).symm))
  have agreed : (∃ found, (before.lookup backend token).1 = .ok found) →
      (∃ found, (after.lookup backend token).1 = .ok found) →
        (after.lookup backend token).1 = (before.lookup backend token).1 := by
    rintro ⟨found, answered⟩ ⟨found', answered'⟩
    rw [answered, answered', agree found found' answered answered']
  cases backend with
  | table =>
    cases present : before.table with
    | none =>
      have gone : after.table = none := by simpa [present] using table
      simp only [lookup, present, gone]
    | some records =>
      obtain ⟨records', present'⟩ := Option.isSome_iff_exists.1 (table.trans (by rw [present]; rfl))
      refine agreed ⟨records.contains token, ?_⟩ ⟨records'.contains token, ?_⟩
      · simp only [lookup, present]
      · simp only [lookup, present']
  | redis =>
    exact agreed (exists_lookup_redis quiet token).1 (exists_lookup_redis quiet' token).1

end DualToken.RevocationStore
