import FleetTrial.Json.Record
import FleetTrial.Proofs.Json.PassingOver

/-!
# Presentations of values

One value has many texts. A string spells its characters in several ways, a value that may be absent
is written as null, and a record is an object of its members in any order, among any others that it
does not know, or an array of its members in their declared order. A reader accepts a text that
presents a value if it takes exactly that value off it; it rejects a text if it finds it to be of
the wrong shape, whatever stands behind it.

A record is filled member by member. The members of an object are filled in the order in which they
stand, but what they fill is what they would fill in their declared order, since different members
set different fields.
-/

namespace FleetTrial.Json

variable {α β : Type} {P : List Char → α → Prop} {text rest : List Char}

/-- Whether a text presents a string. -/
def IsText (text : List Char) (s : String) : Prop :=
  ∃ spelt, text = '"' :: (spelt ++ ['"']) ∧ Spells spelt s.toList

/-- Whether a text presents a count. -/
def IsCount (text : List Char) (n : UInt64) : Prop := text = Nat.toDigits 10 n.toNat

/-- Whether a text presents a value that may be null. -/
inductive IsNullable (P : List Char → α → Prop) : List Char → Option α → Prop
  | null : IsNullable P ['n', 'u', 'l', 'l'] none
  | value {text : List Char} {a : α} (hvalue : P text a) : IsNullable P text (some a)

/-- Whether a value is what a text presents, or the default if there is no text. -/
def IsGiven (P : List Char → α → Prop) (default : α) : Option (List Char) → α → Prop
  | none, a => a = default
  | some text, a => P text a

/-- An entry whose name is a string. -/
structure NamedEntry extends Entry where
  key : String
  spells : Spells spelt key.toList

/-- The names and values of some entries. -/
def pairs (entries : List NamedEntry) : List (String × List Char) :=
  entries.map fun e => (e.key, e.value)

/-- The entries without their names. -/
def unnamed (entries : List NamedEntry) : List Entry := entries.map (·.toEntry)

/-- Whether none of some names stands twice among the entries of an object. -/
def AreOnce (names : List String) (entries : List NamedEntry) : Prop :=
  entries.Pairwise fun e later => e.key ∈ names → e.key ≠ later.key

/-- Whether all entries without one of some names have a value. -/
def AreSound (names : List String) (entries : List NamedEntry) : Prop :=
  ∀ e ∈ entries, e.key ∉ names → IsJson e.value

/-- Whether a text is a record that gives these texts to its members: an object in which no known
name stands twice, or an array that may end early. -/
inductive IsRecordText (names : List String) : List (String × List Char) → List Char → Prop
  | object (blank : Gap) {entries : List NamedEntry} (hsound : AreSound names entries)
    (honce : AreOnce names entries) :
    IsRecordText names (pairs entries) (objectText blank (unnamed entries))
  | array (blank : Gap) {items : List Item} (hlength : items.length ≤ names.length) :
    IsRecordText names (names.zip (items.map (·.value))) (arrayText blank items)

/-- Whether a text is a record with a fault in its shape: a known name that stands twice, or a value
that is spoilt. What stands in front of the fault can be read. Nothing is said about the values
behind it, and nothing about the value of a name that stands twice. -/
inductive IsSpoiltText (names : List String) (reads spoilt : String → List Char → Prop) :
    List Char → Prop
  | object (blank : Gap) (before : List NamedEntry) (e : NamedEntry) (behind : List NamedEntry)
    (hsound : AreSound names before) (honce : AreOnce names before)
    (hreads : ∀ e ∈ before, e.key ∈ names → reads e.key e.value) (hknown : e.key ∈ names)
    (hfault : (∃ earlier ∈ before, earlier.key = e.key) ∨ spoilt e.key e.value) :
    IsSpoiltText names reads spoilt (objectText blank (unnamed (before ++ e :: behind)))
  | array (blank : Gap) (before : List Item) (i : Item) (behind : List Item) {name : String}
    (hreads : ∀ p ∈ names.zip (before.map (·.value)), reads p.1 p.2)
    (hname : names[before.length]? = some name) (hfault : spoilt name i.value) :
    IsSpoiltText names reads spoilt (arrayText blank (before ++ i :: behind))

/-- Whether a reader takes a value off a text, behind any blanks and in front of whatever may stand
behind a value. -/
structure Reader.Accepts (r : Reader α) (text : List Char) (a : α) : Prop where
  opens : Opens text
  run : ∀ (g : Gap) (rest : List Char), Bounds rest →
    r.run (g.text ++ (text ++ rest)) = .ok (a, rest)

/-- Whether a reader finds a text to be of the wrong shape, whatever stands behind it. -/
structure Reader.Rejects (r : Reader α) (text : List Char) : Prop where
  opens : Opens text
  run : ∀ (g : Gap) (rest : List Char),
    r.run (g.text ++ (text ++ rest)) = .error .mismatched

namespace Reader

variable {r : Reader α} {a : α}

/-- A function of what is read is accepted where that is. -/
theorem Accepts.map (haccepts : r.Accepts text a) (f : α → β) : (r.map f).Accepts text (f a) := by
  refine ⟨haccepts.opens, fun g rest hbounds => ?_⟩
  simp only [Reader.map, haccepts.run g rest hbounds, Except.map]

/-- A function of what is read is rejected where that is. -/
theorem Rejects.map (hrejects : r.Rejects text) (f : α → β) : (r.map f).Rejects text := by
  refine ⟨hrejects.opens, fun g rest => ?_⟩
  simp only [Reader.map, hrejects.run g rest, Except.map]

/-- A text that does not start as null does is read as a value. -/
theorem nullable_run (hopens : Opens text) (hnull : text.head? ≠ some 'n') (g : Gap)
    (rest : List Char) :
    r.nullable.run (g.text ++ (text ++ rest)) =
      (r.run (g.text ++ (text ++ rest))).map fun p => (some p.1, p.2) := by
  obtain ⟨c, more, rfl, hgap, _⟩ := hopens
  have hskip : skipGap (g.text ++ (c :: more ++ rest)) = c :: (more ++ rest) :=
    g.skipGap_cons hgap _
  simp only [Reader.nullable, hskip]
  split
  · rename_i heq
    cases heq
    exact absurd rfl hnull
  · rfl

/-- A value that may be null is accepted where it is not. -/
theorem Accepts.nullable (haccepts : r.Accepts text a) (hnull : text.head? ≠ some 'n') :
    r.nullable.Accepts text (some a) := by
  refine ⟨haccepts.opens, fun g rest hbounds => ?_⟩
  rw [nullable_run haccepts.opens hnull, haccepts.run g rest hbounds]
  rfl

/-- A value that may be null is rejected where it is if it is not null. -/
theorem Rejects.nullable (hrejects : r.Rejects text) (hnull : text.head? ≠ some 'n') :
    r.nullable.Rejects text := by
  refine ⟨hrejects.opens, fun g rest => ?_⟩
  rw [nullable_run hrejects.opens hnull, hrejects.run g rest]
  rfl

/-- Null is accepted where it may stand. -/
theorem accepts_null (r : Reader α) : r.nullable.Accepts ['n', 'u', 'l', 'l'] none := by
  refine ⟨⟨'n', _, rfl, rfl, by decide, by decide⟩, fun g rest _ => ?_⟩
  have hskip : skipGap (g.text ++ (['n', 'u', 'l', 'l'] ++ rest)) =
      'n' :: 'u' :: 'l' :: 'l' :: rest := g.skipGap_cons rfl _
  simp only [Reader.nullable, hskip]
  rfl

/-- A reader of values that do not start as null does accepts them where null may stand too. -/
theorem accepts_nullable {value : Option α} (hP : ∀ text a, P text a → r.Accepts text a)
    (hnull : ∀ text a, P text a → text.head? ≠ some 'n') (hvalue : IsNullable P text value) :
    r.nullable.Accepts text value := by
  cases hvalue with
  | null => exact accepts_null r
  | value hvalue => exact (hP _ _ hvalue).nullable (hnull _ _ hvalue)

end Reader

/-- A string is accepted however it is spelt. -/
theorem IsText.accepts {s : String} (htext : IsText text s) : textReader.Accepts text s := by
  obtain ⟨spelt, rfl, hspells⟩ := htext
  refine ⟨⟨'"', _, rfl, rfl, by decide, by decide⟩, fun g rest _ => ?_⟩
  have hskip : skipGap (g.text ++ ('"' :: (spelt ++ ['"']) ++ rest)) =
      '"' :: (spelt ++ '"' :: rest) := by
    rw [List.cons_append, List.append_assoc]
    exact g.skipGap_cons rfl _
  simp only [textReader, hskip, hspells.readString, Except.map, String.ofList_toList]

/-- A string does not start as null does. -/
theorem IsText.head?_ne {s : String} (htext : IsText text s) : text.head? ≠ some 'n' := by
  obtain ⟨spelt, rfl, _⟩ := htext
  nofun

/-- A count starts with a digit. -/
theorem IsCount.exists_cons {n : UInt64} (hcount : IsCount text n) :
    ∃ c more, text = c :: more ∧ c.isDigit = true := by
  obtain ⟨hne, hdigits⟩ := (isWhole_toDigits n.toNat).digits
  rw [← hcount] at hne hdigits
  obtain ⟨c, more, rfl⟩ := List.exists_cons_of_ne_nil hne
  exact ⟨c, more, rfl, hdigits c List.mem_cons_self⟩

/-- A count is accepted. -/
theorem IsCount.accepts {n : UInt64} (hcount : IsCount text n) : countReader.Accepts text n := by
  have hopens : Opens text := by
    have hopens : Opens (Nat.toDigits 10 n.toNat ++ []) :=
      opens_of_areDigits (isWhole_toDigits n.toNat).digits
    rwa [List.append_nil, ← hcount] at hopens
  refine ⟨hopens, fun g rest hbounds => ?_⟩
  have hword : n.toNat ≤ Text.maxWord64 := Nat.le_of_lt_succ n.toNat_lt
  have hread := readNumber_toDigits hword hbounds
  rw [← hcount] at hread
  obtain ⟨c, more, rfl, hdigit⟩ := hcount.exists_cons
  have hskip : skipGap (g.text ++ (c :: more ++ rest)) = c :: (more ++ rest) :=
    g.skipGap_cons (isGap_eq_false_of_isDigit hdigit) _
  rw [List.cons_append] at hread
  simp only [countReader, hskip, hdigit, if_true, hread, Except.bind, asCount, UInt64.ofNat_toNat]

/-- A count does not start as null does. -/
theorem IsCount.head?_ne {n : UInt64} (hcount : IsCount text n) : text.head? ≠ some 'n' := by
  obtain ⟨c, more, rfl, hdigit⟩ := hcount.exists_cons
  intro hnull
  cases hnull
  cases hdigit

end FleetTrial.Json
