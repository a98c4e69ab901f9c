import FleetTrial.Proofs.Settings.Soundness
import Mathlib.Algebra.GroupWithZero.Nat
import Mathlib.Order.Bounds.Defs

/-!
# Sharing out all attempts

Each user works out its own share of the attempts, and the shares of all users add up to the total.
No two of them are more than one attempt apart, the larger ones going to the users that come first,
and what is told of the attempts per user is the one share or the two shares that are handed out.
-/

namespace FleetTrial

namespace Settings

variable {s : Settings} {total : Nat}

/-- Whether nothing but a total number of attempts ends the work of the users. -/
structure IsBudgeted (s : Settings) (total : Nat) : Prop where
  staffed : s.IsStaffed
  attempts : s.extent.attempts = some total
  duration : s.extent.duration = none
  fits : total ≤ Text.maxWord64

/-- The share of a user, if there is one. -/
def budget (s : Settings) (id : Nat) : Nat :=
  match s.attemptsOf id with
  | .ok (some attempts) => attempts
  | _ => 0

/-- An even split, with what is left over going one apiece to the first. -/
theorem sum_split (q r n : Nat) :
    ((List.range n).map fun id => q + if id < r then 1 else 0).sum = n * q + min n r := by
  induction n with
  | zero => simp
  | succ n ih =>
    rw [List.range_succ, List.map_append, List.sum_append, ih, Nat.succ_mul]
    simp only [List.map_cons, List.map_nil, List.sum_cons, List.sum_nil]
    split <;> omega

/-- Whether a total number of attempts is shared out among some users. -/
structure SharesOut (s : Settings) (total : Nat) : Prop where
  users_pos : 0 < s.crowd.users
  attempts : s.extent.attempts = some total

namespace SharesOut

variable (hshares : s.SharesOut total)

include hshares

/-- What the share of a user is. -/
theorem budget_eq (id : Nat) :
    s.budget id = total / s.crowd.users + if id < total % s.crowd.users then 1 else 0 := by
  have husers : s.crowd.users ≠ 0 := Nat.pos_iff_ne_zero.mp hshares.users_pos
  simp only [budget, attemptsOf, hshares.attempts, share, if_neg husers, Except.map]

/-- Every user finds its share. -/
theorem attemptsOf_eq (id : Nat) : s.attemptsOf id = .ok (some (s.budget id)) := by
  have husers : s.crowd.users ≠ 0 := Nat.pos_iff_ne_zero.mp hshares.users_pos
  rw [hshares.budget_eq]
  simp only [attemptsOf, hshares.attempts, share, if_neg husers, Except.map]

/-- The shares of all users add up to the total. -/
theorem sum_budget : ((List.range s.crowd.users).map s.budget).sum = total := by
  have husers := hshares.users_pos
  rw [funext hshares.budget_eq, sum_split,
    Nat.min_eq_right (Nat.le_of_lt (Nat.mod_lt total husers)), Nat.div_add_mod]

/-- The shares of the first users are no more than the total. -/
theorem sum_budget_le {n : Nat} (hn : n ≤ s.crowd.users) :
    ((List.range n).map s.budget).sum ≤ total := by
  obtain ⟨rest, hrest⟩ := Nat.exists_eq_add_of_le hn
  rw [← hshares.sum_budget, hrest, List.range_add, List.map_append, List.sum_append]
  exact Nat.le_add_right _ _

/-- The share of the first user, which gets one of the attempts that are left over. -/
theorem budget_first : s.budget 0 = total / s.crowd.users +
    if total % s.crowd.users = 0 then 0 else 1 := by
  rw [hshares.budget_eq]
  split <;> split <;> omega

/-- The share of the last user, which gets none of the attempts that are left over. -/
theorem budget_last : s.budget (s.crowd.users - 1) = total / s.crowd.users := by
  have hleft := Nat.mod_lt total hshares.users_pos
  rw [hshares.budget_eq, if_neg (by omega), Nat.add_zero]

/-- No user gets more than the ones before it. -/
theorem budget_le_budget {id id' : Nat} (hle : id ≤ id') : s.budget id' ≤ s.budget id := by
  rw [hshares.budget_eq, hshares.budget_eq]
  split <;> split <;> omega

/-- No user gets more than one attempt more than another. -/
theorem budget_le_succ (id id' : Nat) : s.budget id ≤ s.budget id' + 1 := by
  rw [hshares.budget_eq, hshares.budget_eq]
  split <;> split <;> omega

/-- A share is one of the total. -/
theorem budget_le_total (id : Nat) : s.budget id ≤ total := by
  have hfirst := hshares.sum_budget_le (n := 1) hshares.users_pos
  rw [List.range_one, List.map_singleton, List.sum_singleton] at hfirst
  exact Nat.le_trans (hshares.budget_le_budget (Nat.zero_le id)) hfirst

/-- Every user gets an attempt exactly if there are at least as many attempts as users. -/
theorem one_le_budget_iff :
    (∀ id < s.crowd.users, 1 ≤ s.budget id) ↔ s.crowd.users ≤ total := by
  have husers := hshares.users_pos
  have hquotient : 1 ≤ total / s.crowd.users ↔ s.crowd.users ≤ total :=
    Nat.one_le_div_iff husers
  rw [← hquotient, ← hshares.budget_last]
  constructor
  · intro hall
    exact hall _ (Nat.sub_lt husers Nat.one_pos)
  · intro hlast id hid
    exact Nat.le_trans hlast (hshares.budget_le_budget (Nat.le_sub_one_of_lt hid))

/-- The shares are all the same exactly if nothing is left over. -/
theorem budget_first_eq_last_iff :
    s.budget 0 = s.budget (s.crowd.users - 1) ↔ total % s.crowd.users = 0 := by
  rw [hshares.budget_first, hshares.budget_last]
  split <;> omega

/-- What is told of the attempts per user. -/
theorem attemptsPerUser_eq : s.attemptsPerUser = .ok (some
    (if s.budget 0 = s.budget (s.crowd.users - 1) then toString (s.budget 0)
    else toString (s.budget (s.crowd.users - 1)) ++ "-" ++ toString (s.budget 0))) := by
  have husers : s.crowd.users ≠ 0 := Nat.pos_iff_ne_zero.mp hshares.users_pos
  simp only [attemptsPerUser, hshares.attempts, shareText, if_neg husers,
    hshares.budget_first_eq_last_iff]
  rw [hshares.budget_first, hshares.budget_last]
  split <;> rfl

end SharesOut

/-- How a total number of attempts is shared out among some users. Each user finds its share, and
no number on the way outgrows its word. The shares add up to the total, no user gets more than the
ones before it, and no two of them are more than one apart; all get some exactly if there are at
least as many attempts as users. What is told of the attempts per user is the share of all users,
or else the least and the greatest share that is handed out. -/
theorem shares_split_total (hshares : s.SharesOut total) (hfits : total ≤ Text.maxWord64) :
    (∀ id, s.attemptsOf id = .ok (some (s.budget id)) ∧ s.budget id ≤ Text.maxWord64) ∧
    ((List.range s.crowd.users).map s.budget).sum = total ∧
    (∀ n ≤ s.crowd.users, ((List.range n).map s.budget).sum ≤ Text.maxWord64) ∧
    (∀ id id', id ≤ id' → s.budget id' ≤ s.budget id) ∧
    (∀ id id', s.budget id ≤ s.budget id' + 1) ∧
    ((∀ id < s.crowd.users, 1 ≤ s.budget id) ↔ s.crowd.users ≤ total) ∧
    (∀ attempts, (∀ id < s.crowd.users, s.budget id = attempts) →
      s.attemptsPerUser = .ok (some (toString attempts))) ∧
    ((¬ ∃ attempts, ∀ id < s.crowd.users, s.budget id = attempts) →
      ∃ least greatest, IsLeast {attempts | ∃ id < s.crowd.users, s.budget id = attempts} least ∧
        IsGreatest {attempts | ∃ id < s.crowd.users, s.budget id = attempts} greatest ∧
        s.attemptsPerUser = .ok (some (toString least ++ "-" ++ toString greatest))) := by
  have hfirst : 0 < s.crowd.users := hshares.users_pos
  have hlast : s.crowd.users - 1 < s.crowd.users := Nat.sub_lt hfirst Nat.one_pos
  have hbetween (id : Nat) (hid : id < s.crowd.users) :
      s.budget (s.crowd.users - 1) ≤ s.budget id ∧ s.budget id ≤ s.budget 0 :=
    ⟨hshares.budget_le_budget (Nat.le_sub_one_of_lt hid),
      hshares.budget_le_budget (Nat.zero_le id)⟩
  refine ⟨fun id => ⟨hshares.attemptsOf_eq id, Nat.le_trans (hshares.budget_le_total id) hfits⟩,
    hshares.sum_budget, fun n hn => Nat.le_trans (hshares.sum_budget_le hn) hfits,
    fun _ _ => hshares.budget_le_budget, hshares.budget_le_succ, hshares.one_le_budget_iff,
    fun attempts hsame => ?_, fun hdiffer => ?_⟩
  · rw [hshares.attemptsPerUser_eq, hsame _ hfirst, hsame _ hlast, if_pos rfl]
  · have hne : s.budget 0 ≠ s.budget (s.crowd.users - 1) := by
      intro heq
      refine hdiffer ⟨s.budget 0, fun id hid => ?_⟩
      obtain ⟨hle, hge⟩ := hbetween id hid
      omega
    refine ⟨_, _, ⟨⟨_, hlast, rfl⟩, ?_⟩, ⟨⟨_, hfirst, rfl⟩, ?_⟩, ?_⟩
    · rintro _ ⟨id, hid, rfl⟩
      exact (hbetween id hid).1
    · rintro _ ⟨id, hid, rfl⟩
      exact (hbetween id hid).2
    · rw [hshares.attemptsPerUser_eq, if_neg hne]

/-- Of the largest number of attempts that fits a word one is left over for the first of two
users. -/
theorem shares_split_greatest_word :
    let s := small 2 18446744073709551615
    s.SharesOut 18446744073709551615 ∧ 18446744073709551615 ≤ Text.maxWord64 ∧
    s.budget 0 = 9223372036854775808 ∧ s.budget 1 = 9223372036854775807 ∧
    ((List.range 2).map s.budget).sum = 18446744073709551615 ∧ (∀ id < 2, 1 ≤ s.budget id) ∧
    ∃ least greatest, IsLeast {attempts | ∃ id < 2, s.budget id = attempts} least ∧
      IsGreatest {attempts | ∃ id < 2, s.budget id = attempts} greatest ∧
      s.attemptsPerUser = .ok (some (toString least ++ "-" ++ toString greatest)) := by
  intro s
  have hshares : s.SharesOut 18446744073709551615 := ⟨Nat.two_pos, rfl⟩
  have hfits : 18446744073709551615 ≤ Text.maxWord64 := by decide
  have hfirst : s.budget 0 = 9223372036854775808 := by decide
  have hlast : s.budget 1 = 9223372036854775807 := by decide
  obtain ⟨-, hsum, -, -, -, hsome, -, htext⟩ := shares_split_total hshares hfits
  refine ⟨hshares, hfits, hfirst, hlast, hsum, hsome.mpr (by decide), htext ?_⟩
  rintro ⟨attempts, hsame⟩
  have hsame₀ : s.budget 0 = attempts := hsame 0 (by decide)
  have hsame₁ : s.budget 1 = attempts := hsame 1 (by decide)
  omega

/-- Budgeted settings share out their total. -/
theorem IsBudgeted.sharesOut (hbudgeted : s.IsBudgeted total) : s.SharesOut total :=
  ⟨hbudgeted.staffed.users_pos, hbudgeted.attempts⟩

namespace IsBudgeted

variable (hbudgeted : s.IsBudgeted total)

include hbudgeted

/-- Every user finds its share. -/
theorem attemptsOf_eq (id : Nat) : s.attemptsOf id = .ok (some (s.budget id)) :=
  hbudgeted.sharesOut.attemptsOf_eq id

/-- The shares of all users add up to the total. -/
theorem sum_budget : ((List.range s.crowd.users).map s.budget).sum = total :=
  hbudgeted.sharesOut.sum_budget

/-- The shares of the first users are no more than the total. -/
theorem sum_budget_le {n : Nat} (hn : n ≤ s.crowd.users) :
    ((List.range n).map s.budget).sum ≤ total :=
  hbudgeted.sharesOut.sum_budget_le hn

end IsBudgeted

end Settings

end FleetTrial
