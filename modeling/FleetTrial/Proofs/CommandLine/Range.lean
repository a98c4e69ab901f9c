import FleetTrial.CommandLine.Line
import FleetTrial.Proofs.Text.Digits

/-!
# The range of the numbers on a command line

A property of the arguments that every option keeps holds of what any command line gives, however
its words are grouped into options and values. One such property is that each number fits the
word it is read into.
-/

namespace FleetTrial

namespace Text

/-- A number that is read digit by digit stays within its limit. -/
theorem le_of_readDigits {limit value n : Nat} {text : List Char} (hvalue : value ≤ limit)
    (hread : readDigits limit value text = .ok n) : n ≤ limit :=
  ((readDigits_eq_ok_iff hvalue).mp hread).2.2

/-- An unsigned number stays within its limit. -/
theorem le_of_readUnsigned {limit n : Nat} {text : List Char}
    (hread : readUnsigned limit text = .ok n) : n ≤ limit := by
  obtain ⟨_, _, _, _, _, _, hlimit⟩ := readUnsigned_eq_ok_iff.mp hread
  exact hlimit

/-- A number in signed notation stays within its limit. -/
theorem le_of_readSigned {limit n : Nat} {text : List Char}
    (hread : readSigned limit text = .ok n) : n ≤ limit := by
  unfold readSigned at hread
  split at hread
  · cases hread
  · exact Nat.le_trans (le_of_readDigits (Nat.le_refl 0) hread) (Nat.zero_le _)
  · exact le_of_readUnsigned hread

end Text

namespace CommandLine

/-- Whether a slot keeps a property of the arguments when it takes a value. -/
def Slot.Keeps (P : Arguments → Prop) (slot : Slot) : Prop :=
  ∀ value a a', P a → slot.put value a = some a' → P a'

/-- Whether what an option does keeps a property of the arguments. -/
def Effect.Keeps (P : Arguments → Prop) : Effect → Prop
  | .value slot => slot.Keeps P
  | .switch _ turnOn => ∀ a, P a → P (turnOn a)
  | .information _ => True

/-- Whether an option that is not settled yet keeps a property of the arguments. -/
def Pending.Keeps (P : Arguments → Prop) : Pending → Prop
  | .nothing => True
  | .awaiting slot | .holding slot _ => slot.Keeps P

/-- Whether a property holds of the arguments so far and is going to be kept. -/
structure Progress.Keeps (P : Arguments → Prop) (p : Progress) : Prop where
  given : P p.given
  pending : p.pending.Keeps P

section Keeping

variable {P : Arguments → Prop} {given : Arguments} {p p' : Progress} {slot : Slot}

/-- A slot for a text keeps what does not depend on that text. -/
theorem Slot.text_keeps {get : Arguments → Option String} {set : String → Arguments → Arguments}
    (hset : ∀ value a, P a → P (set value a)) : (Slot.text get set).Keeps P := by
  intro value a a' ha hput
  cases hput
  exact hset value a ha

/-- A slot for any number of texts keeps what does not depend on them. -/
theorem Slot.texts_keeps {add : String → Arguments → Arguments}
    (hadd : ∀ value a, P a → P (add value a)) : (Slot.texts add).Keeps P := by
  intro value a a' ha hput
  cases hput
  exact hadd value a ha

/-- A slot for a number keeps what every number within its limit keeps. -/
theorem Slot.number_keeps {limit : Nat} {read : List Char → Except Text.NumberFault Nat}
    {get : Arguments → Option Nat} {set : Nat → Arguments → Arguments}
    (hread : ∀ {text n}, read text = .ok n → n ≤ limit)
    (hset : ∀ n a, n ≤ limit → P a → P (set n a)) : (Slot.number read get set).Keeps P := by
  intro value a a' ha hput
  simp only [Slot.number] at hput
  split at hput
  · rename_i n hn
    cases hput
    exact hset n a (hread hn) ha
  · cases hput

/-- An option that gets its value keeps what its slot keeps. -/
theorem keeps_of_assign {value : String} {given' : Arguments} (hslot : slot.Keeps P)
    (hgiven : P given) (hassign : assign slot value given = .ok given') : P given' := by
  unfold assign at hassign
  split at hassign
  · cases hassign
  · split at hassign
    · cases hassign
    · cases hassign
      exact hslot _ _ _ hgiven ‹_›

/-- The settlement of the pending option keeps what it is to keep. -/
theorem Progress.Keeps.of_settle (hp : p.Keeps P) (hsettle : settle p = .ok given) : P given := by
  have hpending := hp.pending
  unfold settle at hsettle
  split at hsettle
  · cases hsettle
    exact hp.given
  · cases hsettle
  · rename_i slot value heq
    rw [heq] at hpending
    exact keeps_of_assign hpending hp.given hsettle

/-- An option that takes a value keeps what its slot keeps. -/
theorem Progress.Keeps.of_meetValue {attached : Option String} (hp : p.Keeps P)
    (hslot : slot.Keeps P) (hmeet : meetValue slot attached p = .ok p') : p'.Keeps P := by
  unfold meetValue at hmeet
  split at hmeet
  · cases hmeet
  · rename_i given hsettle
    have hgiven := hp.of_settle hsettle
    split at hmeet
    · cases hmeet
      exact ⟨hgiven, hslot⟩
    · rename_i value
      cases hassign : assign slot value given with
      | error refusal =>
        rw [hassign] at hmeet
        cases hmeet
      | ok given' =>
        rw [hassign] at hmeet
        cases hmeet
        exact ⟨keeps_of_assign hslot hgiven hassign, trivial⟩

/-- A switch keeps what turning it on keeps. -/
theorem Progress.Keeps.of_meetSwitch {taken : Arguments → Bool} {turnOn : Arguments → Arguments}
    (hp : p.Keeps P) (hturnOn : ∀ a, P a → P (turnOn a))
    (hmeet : meetSwitch taken turnOn p = .ok p') : p'.Keeps P := by
  unfold meetSwitch at hmeet
  split at hmeet
  · cases hmeet
  · split at hmeet
    · cases hmeet
    · cases hmeet
      exact ⟨hturnOn _ (hp.of_settle ‹_›), trivial⟩

/-- A request for information ends the reading. -/
theorem meetInformation_ne_ok (answer : Refusal) : meetInformation answer p ≠ .ok p' := by
  unfold meetInformation
  split <;> nofun

variable (hentries : ∀ e ∈ entries, e.effect.Keeps P)

include hentries

/-- What a long option does is kept as every entry is. -/
theorem keeps_of_longEffect? {name : String} {effect : Effect}
    (hlong : longEffect? name = some effect) : effect.Keeps P := by
  obtain ⟨e, hfind, rfl⟩ := Option.map_eq_some_iff.mp hlong
  exact hentries e (List.mem_of_find?_eq_some hfind)

/-- What a short option does is kept as every entry is. -/
theorem keeps_of_shortEffect? {letter : Char} {effect : Effect}
    (hshort : shortEffect? letter = some effect) : effect.Keeps P := by
  obtain ⟨e, hfind, rfl⟩ := Option.map_eq_some_iff.mp hshort
  exact hentries e (List.mem_of_find?_eq_some hfind)

/-- A long option keeps what every entry keeps. -/
theorem Progress.Keeps.of_readLong {word : List Char} (hp : p.Keeps P)
    (hread : readLong word p = .ok p') : p'.Keeps P := by
  unfold readLong at hread
  split at hread
  split at hread
  · cases hread
  · rename_i slot hlong _
    have hslot : slot.Keeps P := keeps_of_longEffect? hentries hlong
    exact hp.of_meetValue hslot hread
  · cases hread
  · cases hread
  · rename_i taken turnOn hlong _
    have hturnOn : ∀ a, P a → P (turnOn a) := keeps_of_longEffect? hentries hlong
    exact hp.of_meetSwitch hturnOn hread
  · exact absurd hread (meetInformation_ne_ok _)

/-- A cluster of short options keeps what every entry keeps. -/
theorem Progress.Keeps.of_readShorts {letters : List Char} (hp : p.Keeps P)
    (hread : readShorts letters p = .ok p') : p'.Keeps P := by
  induction letters generalizing p with
  | nil =>
    cases hread
    exact hp
  | cons letter rest ih =>
    unfold readShorts at hread
    split at hread
    · cases hread
    · rename_i slot hshort
      have hslot : slot.Keeps P := keeps_of_shortEffect? hentries hshort
      exact hp.of_meetValue hslot hread
    · rename_i taken turnOn hshort
      have hturnOn : ∀ a, P a → P (turnOn a) := keeps_of_shortEffect? hentries hshort
      split at hread
      · cases hread
      · exact ih (hp.of_meetSwitch hturnOn ‹_›) hread
    · exact absurd hread (meetInformation_ne_ok _)

/-- A word keeps what every entry keeps. -/
theorem Progress.Keeps.of_readWord {word : String} (hp : p.Keeps P)
    (hread : readWord word p = .ok p') : p'.Keeps P := by
  unfold readWord at hread
  split at hread
  · exact hp.of_readLong hentries hread
  · exact hp.of_readShorts hentries hread
  · have hpending := hp.pending
    unfold readPlain at hread
    split at hread
    · rename_i heq
      rw [heq] at hpending
      cases hread
      exact ⟨hp.given, hpending⟩
    · cases hread

/-- The words of a line keep what every entry keeps. -/
theorem Progress.Keeps.of_readWords {words : List String} (hp : p.Keeps P)
    (hread : readWords words p = .ok given) : P given := by
  induction words generalizing p with
  | nil => exact hp.of_settle hread
  | cons word rest ih =>
    unfold readWords at hread
    split at hread
    · split at hread
      · exact hp.of_settle hread
      · cases hread
    · split at hread
      · cases hread
      · exact ih (hp.of_readWord hentries ‹_›) hread

end Keeping

end CommandLine

namespace Arguments

/-- Whether each number among the arguments fits the word that it is read into. -/
structure IsInRange (a : Arguments) : Prop where
  users : ∀ n ∈ a.users, n ≤ Text.maxWord32
  attempts : ∀ n ∈ a.attempts, n ≤ Text.maxWord64
  fleetSize : ∀ n ∈ a.fleetSize, n ≤ Text.maxWord32
  containerPort : ∀ n ∈ a.containerPort, n ≤ Text.maxWord16
  timeout : ∀ n ∈ a.timeout, n ≤ Text.maxWord64

/-- The numbers among the arguments. -/
def numbers (a : Arguments) : List (Option Nat) :=
  [a.users, a.attempts, a.fleetSize, a.containerPort, a.timeout]

/-- Arguments with the same numbers are in the same range. -/
theorem IsInRange.of_numbers_eq {a b : Arguments} (ha : a.IsInRange)
    (hnumbers : b.numbers = a.numbers) : b.IsInRange := by
  simp only [numbers, List.cons.injEq, and_true] at hnumbers
  obtain ⟨husers, hattempts, hsize, hport, htimeout⟩ := hnumbers
  constructor
  · rw [husers]; exact ha.users
  · rw [hattempts]; exact ha.attempts
  · rw [hsize]; exact ha.fleetSize
  · rw [hport]; exact ha.containerPort
  · rw [htimeout]; exact ha.timeout

end Arguments

namespace CommandLine

/-- An option for a text keeps the numbers in their range. -/
theorem isInRange_text {get : Arguments → Option String} {set : String → Arguments → Arguments}
    (hset : ∀ value a, (set value a).numbers = a.numbers) :
    (Effect.value (.text get set)).Keeps Arguments.IsInRange :=
  Slot.text_keeps fun value a ha => ha.of_numbers_eq (hset value a)

/-- A switch keeps the numbers in their range. -/
theorem isInRange_switch {taken : Arguments → Bool} {turnOn : Arguments → Arguments}
    (hturnOn : ∀ a, (turnOn a).numbers = a.numbers) :
    (Effect.switch taken turnOn).Keeps Arguments.IsInRange :=
  fun a ha => ha.of_numbers_eq (hturnOn a)

/-- A number that is within its limit is so as an option that is there. -/
theorem forall_mem_some_le {n limit : Nat} (hn : n ≤ limit) : ∀ k ∈ some n, k ≤ limit := by
  intro k hk
  cases hk
  exact hn

/-- Every option keeps the numbers in their range. -/
theorem isInRange_kept : ∀ e ∈ entries, e.effect.Keeps Arguments.IsInRange := by
  have hload : ∀ e ∈ loadEntries, e.effect.Keeps Arguments.IsInRange := by
    simp only [loadEntries, List.forall_mem_cons]
    exact ⟨isInRange_text fun _ _ => rfl,
      Slot.number_keeps Text.le_of_readSigned fun n a hn ha =>
        { ha with users := forall_mem_some_le hn },
      isInRange_text fun _ _ => rfl,
      Slot.number_keeps Text.le_of_readUnsigned fun n a hn ha =>
        { ha with attempts := forall_mem_some_le hn },
      isInRange_text fun _ _ => rfl, isInRange_text fun _ _ => rfl, nofun⟩
  have hfleet : ∀ e ∈ fleetEntries, e.effect.Keeps Arguments.IsInRange := by
    simp only [fleetEntries, List.forall_mem_cons]
    exact ⟨isInRange_text fun _ _ => rfl,
      Slot.number_keeps Text.le_of_readSigned fun n a hn ha =>
        { ha with fleetSize := forall_mem_some_le hn },
      isInRange_text fun _ _ => rfl, isInRange_text fun _ _ => rfl,
      Slot.number_keeps Text.le_of_readSigned fun n a hn ha =>
        { ha with containerPort := forall_mem_some_le hn },
      isInRange_switch fun _ => rfl, isInRange_switch fun _ => rfl, nofun⟩
  have hrequest : ∀ e ∈ requestEntries, e.effect.Keeps Arguments.IsInRange := by
    simp only [requestEntries, List.forall_mem_cons]
    exact ⟨isInRange_text fun _ _ => rfl, isInRange_text fun _ _ => rfl,
      isInRange_text fun _ _ => rfl,
      Slot.number_keeps Text.le_of_readUnsigned fun n a hn ha =>
        { ha with timeout := forall_mem_some_le hn },
      Slot.texts_keeps fun _ _ ha => ha.of_numbers_eq rfl,
      isInRange_switch fun _ => rfl, nofun⟩
  have hreport : ∀ e ∈ reportEntries, e.effect.Keeps Arguments.IsInRange := by
    simp only [reportEntries, List.forall_mem_cons]
    exact ⟨isInRange_text fun _ _ => rfl, isInRange_text fun _ _ => rfl,
      isInRange_switch fun _ => rfl, isInRange_switch fun _ => rfl, trivial, trivial, nofun⟩
  intro e he
  simp only [entries, List.mem_append] at he
  rcases he with ((he | he) | he) | he
  · exact hload e he
  · exact hfleet e he
  · exact hrequest e he
  · exact hreport e he

/-- The arguments of a command line that is not refused: its numbers are in their range, and a
duration and a number of attempts are not both there. -/
theorem isInRange_of_read {line : List String} {given : Arguments} {host : String}
    (hread : read line = .ok (given, host)) :
    given.IsInRange ∧ given.host = some host ∧
      (given.duration.isSome && given.attempts.isSome) = false := by
  have hnothing : (⟨.nothing, .nothing⟩ : Progress).Keeps Arguments.IsInRange :=
    ⟨⟨nofun, nofun, nofun, nofun, nofun⟩, trivial⟩
  unfold read at hread
  split at hread
  · cases hread
  · rename_i given' hwords
    split at hread
    · cases hread
    · rename_i hboth
      split at hread
      · cases hread
      · rename_i host' hhost
        cases hread
        exact ⟨hnothing.of_readWords isInRange_kept hwords, hhost, Bool.not_eq_true _ ▸ hboth⟩

end CommandLine

end FleetTrial
