import FleetTrial.Proofs.Json.Records

/-!
# Rejecting records

A record is rejected for the first fault of its shape: a known name that stands twice, or a value
that its member rejects. What stands in front of the fault is read or passed over, and what stands
behind it is never looked at.
-/

namespace FleetTrial.Json

variable {σ : Type} {members : List (Member σ)} {m : Member σ} {a : σ} {text rest : List Char}

/-- Whether a member reads a text. -/
def Member.Reads (m : Member σ) (text : List Char) : Prop := ∃ set, m.reader.Accepts text set

/-- A member that sets a field reads what the reader of that field accepts. -/
theorem Reader.Accepts.isRead {α : Type} {r : Reader α} {value : α} {name : String}
    {put : α → σ → σ} (haccepts : r.Accepts text value) (hm : .of name r put ∈ members) :
    ∃ m ∈ members, m.name = name ∧ m.Reads text :=
  ⟨_, hm, rfl, _, haccepts.map put⟩

/-- A member that sets a field rejects what the reader of that field rejects. -/
theorem Reader.Rejects.isRejected {α : Type} {r : Reader α} {name : String} {put : α → σ → σ}
    (hrejects : r.Rejects text) (hm : .of name r put ∈ members) :
    ∃ m ∈ members, m.name = name ∧ m.reader.Rejects text :=
  ⟨_, hm, rfl, hrejects.map put⟩

section Objects

variable {e : NamedEntry} {before behind : List NamedEntry} {seen : List (List Char)} {first : Bool}

/-- Whether the values of all known entries are read by their members. -/
def AreRead (members : List (Member σ)) (entries : List NamedEntry) : Prop :=
  ∀ e ∈ entries, ∀ m ∈ members, m.name = e.key → m.Reads e.value

/-- An entry that can be read is followed by the rest of its object. -/
theorem readMembers_past (hfields : AreFields members)
    (hsound : AreSound (namesOf members) (e :: before)) (hread : AreRead members (e :: before))
    (hnew : AreNew members seen (e :: before))
    (hnext : nextName first text =
      .ok (some e.key.toList, e.behindName (furtherEntries behind rest))) :
    ∃ next, readMembers members a seen first text =
      readMembers members next (e.key.toList :: seen) false
        (e.afterValue.text ++ furtherEntries behind rest) := by
  by_cases hknown : e.key ∈ namesOf members
  · obtain ⟨m, hm, hkey⟩ := List.mem_map.mp hknown
    obtain ⟨set, haccepts⟩ := hread e List.mem_cons_self m hm hkey
    exact ⟨set a,
      readMembers_known hfields hm hkey (hnew e List.mem_cons_self hknown) haccepts hnext⟩
  · exact ⟨a, readMembers_unknown hknown (hsound e List.mem_cons_self hknown) hnext⟩

/-- A faulty entry ends its object. -/
theorem readMembers_faulty (hfields : AreFields members) (hm : m ∈ members) (hkey : m.name = e.key)
    (hfault : e.key.toList ∈ seen ∨ m.reader.Rejects e.value)
    (hnext : nextName first text =
      .ok (some e.key.toList, e.behindName (furtherEntries behind rest))) :
    readMembers members a seen first text = .error .mismatched := by
  apply readMembers_of_error hnext
  by_cases hseen : e.key.toList ∈ seen
  · exact readMember_of_seen hfields hm hkey hseen _
  · rw [readMember_of_known hfields hm hkey hseen]
    exact (hfault.resolve_left hseen).run _ _

/-- Whether a name has been seen, or stands among some entries. -/
def Recurs (seen : List (List Char)) (before : List NamedEntry) (key : String) : Prop :=
  key.toList ∈ seen ∨ ∃ earlier ∈ before, earlier.key = key

/-- Behind an entry its name has been seen. -/
theorem Recurs.tail {key : String} (hrecurs : Recurs seen (e :: before) key) :
    Recurs (e.key.toList :: seen) before key := by
  obtain hseen | ⟨earlier, hearlier, rfl⟩ := hrecurs
  · exact .inl (List.mem_cons_of_mem _ hseen)
  · obtain rfl | hearlier := List.mem_cons.mp hearlier
    · exact .inl List.mem_cons_self
    · exact .inr ⟨earlier, hearlier, rfl⟩

/-- Without entries before it a name recurs only if it has been seen. -/
theorem recurs_nil {key : String} : Recurs seen [] key ↔ key.toList ∈ seen := by
  simp [Recurs]

/-- A fault among further entries ends their object. -/
theorem readMembers_further_faulty (hfields : AreFields members)
    (hsound : AreSound (namesOf members) before) (honce : AreOnce (namesOf members) before)
    (hread : AreRead members before) (hnew : AreNew members seen before) (hm : m ∈ members)
    (hkey : m.name = e.key) (hfault : Recurs seen before e.key ∨ m.reader.Rejects e.value) (g : Gap)
    (behind : List NamedEntry) (rest : List Char) :
    readMembers members a seen false (g.text ++ furtherEntries (before ++ e :: behind) rest) =
      .error .mismatched := by
  induction before generalizing a seen g with
  | nil =>
    rw [List.nil_append, furtherEntries_cons]
    exact readMembers_faulty hfields hm hkey (hfault.imp_left recurs_nil.mp)
      (nextName_further g e _)
  | cons e' before ih =>
    rw [List.cons_append, furtherEntries_cons]
    obtain ⟨next, hpast⟩ := readMembers_past (a := a) hfields hsound hread hnew
      (nextName_further g e' (furtherEntries (before ++ e :: behind) rest))
    rw [hpast]
    exact ih (fun x hx => hsound x (List.mem_cons_of_mem _ hx)) honce.of_cons
      (fun x hx => hread x (List.mem_cons_of_mem _ hx)) (hnew.tail honce)
      (hfault.imp_left Recurs.tail) e'.afterValue

/-- A fault among the entries of an object ends it. -/
theorem readMembers_body_faulty (hfields : AreFields members)
    (hsound : AreSound (namesOf members) before) (honce : AreOnce (namesOf members) before)
    (hread : AreRead members before) (hm : m ∈ members) (hkey : m.name = e.key)
    (hfault : Recurs [] before e.key ∨ m.reader.Rejects e.value) (blank : Gap)
    (behind : List NamedEntry) (rest : List Char) :
    readMembers members a [] true
      (body blank ((unnamed (before ++ e :: behind)).map Entry.text) ++ '\x7d' :: rest) =
      .error .mismatched := by
  cases before with
  | nil =>
    rw [List.nil_append, body_unnamed_cons]
    exact readMembers_faulty hfields hm hkey (hfault.imp_left recurs_nil.mp) (nextName_first e _)
  | cons e' before =>
    have hnew : AreNew members [] (e' :: before) := fun _ _ _ => List.not_mem_nil
    rw [List.cons_append, body_unnamed_cons]
    obtain ⟨next, hpast⟩ := readMembers_past (a := a) hfields hsound hread hnew
      (nextName_first e' (furtherEntries (before ++ e :: behind) rest))
    rw [hpast]
    exact readMembers_further_faulty hfields (fun x hx => hsound x (List.mem_cons_of_mem _ hx))
      honce.of_cons (fun x hx => hread x (List.mem_cons_of_mem _ hx)) (hnew.tail honce) hm hkey
      (hfault.imp_left Recurs.tail) e'.afterValue behind rest

end Objects

section Arrays

variable {i : Item} {before : List Item}

/-- A value that is rejected is so without blanks before it too. -/
theorem Reader.Rejects.run_value {α : Type} {r : Reader α} (hrejects : r.Rejects text)
    (rest : List Char) : r.run (text ++ rest) = .error .mismatched :=
  hrejects.run .none rest

/-- A rejected value among further items ends their array. -/
theorem readItems_further_faulty (hread : ∀ p ∈ members.zip before, p.1.Reads p.2.value)
    (hm : members[before.length]? = some m) (hrejects : m.reader.Rejects i.value) (g : Gap)
    (behind : List Item) (rest : List Char) :
    readItems a false members (g.text ++ furtherItems (before ++ i :: behind) rest) =
      .error .mismatched := by
  induction before generalizing members a g with
  | nil =>
    obtain ⟨more, rfl⟩ := List.head?_eq_some_iff.mp (List.head?_eq_getElem? ▸ hm)
    rw [List.nil_append, furtherItems_cons]
    exact readItems_of_error (nextItem_further g hrejects.opens _) (hrejects.run_value _)
  | cons i' before ih =>
    cases members with
    | nil => cases hm
    | cons m' more =>
      obtain ⟨set, haccepts⟩ := hread (m', i') List.mem_cons_self
      rw [List.cons_append, furtherItems_cons,
        readItems_item haccepts (nextItem_further g haccepts.opens _)]
      exact ih (fun p hp => hread p (List.mem_cons_of_mem _ hp)) hm i'.after

/-- A rejected value among the items of an array ends it. -/
theorem readItems_body_faulty (hread : ∀ p ∈ members.zip before, p.1.Reads p.2.value)
    (hm : members[before.length]? = some m) (hrejects : m.reader.Rejects i.value) (blank : Gap)
    (behind : List Item) (rest : List Char) :
    readItems a true members (body blank ((before ++ i :: behind).map Item.text) ++ ']' :: rest) =
      .error .mismatched := by
  cases before with
  | nil =>
    obtain ⟨more, rfl⟩ := List.head?_eq_some_iff.mp (List.head?_eq_getElem? ▸ hm)
    rw [List.nil_append, body_items_cons]
    exact readItems_of_error (nextItem_first hrejects.opens _) (hrejects.run_value _)
  | cons i' before =>
    cases members with
    | nil => cases hm
    | cons m' more =>
      obtain ⟨set, haccepts⟩ := hread (m', i') List.mem_cons_self
      rw [List.cons_append, body_items_cons,
        readItems_item haccepts (nextItem_first haccepts.opens _)]
      exact readItems_further_faulty (fun p hp => hread p (List.mem_cons_of_mem _ hp)) hm hrejects
        i'.after behind rest

end Arrays

/-- **A spoilt record is rejected,** if its members read what is told to be read and reject what is
told to be spoilt. -/
theorem IsSpoiltText.rejects {reads spoilt : String → List Char → Prop}
    (hfields : AreFields members)
    (hreads : ∀ name text, reads name text → ∃ m ∈ members, m.name = name ∧ m.Reads text)
    (hspoilt : ∀ name text, spoilt name text →
      ∃ m ∈ members, m.name = name ∧ m.reader.Rejects text)
    (htext : IsSpoiltText (namesOf members) reads spoilt text) :
    (recordReader members a).Rejects text := by
  have hreads {m : Member σ} (hm : m ∈ members) {text : List Char} (htext : reads m.name text) :
      m.Reads text := hfields.of_name hm (hreads _ _ htext)
  have hspoilt {m : Member σ} (hm : m ∈ members) {text : List Char} (htext : spoilt m.name text) :
      m.reader.Rejects text := hfields.of_name hm (hspoilt _ _ htext)
  cases htext with
  | object blank before e behind hsound honce hvalues hknown hfault =>
    refine ⟨⟨'\x7b', _, rfl, rfl, by decide, by decide⟩, fun g rest => ?_⟩
    obtain ⟨m, hm, hkey⟩ := List.mem_map.mp hknown
    have hread : AreRead members before := by
      intro e he m hm hkey
      exact hreads hm (hkey ▸ hvalues e he (hkey ▸ List.mem_map_of_mem hm))
    rw [recordReader_object]
    refine readMembers_body_faulty hfields hsound honce hread hm hkey (hfault.imp .inr ?_) blank
      behind rest
    exact fun hvalue => hspoilt hm (hkey ▸ hvalue)
  | @array blank before i behind name hvalues hname hfault =>
    refine ⟨⟨'[', _, rfl, rfl, by decide, by decide⟩, fun g rest => ?_⟩
    rw [namesOf, List.zip_map, List.forall_mem_map] at hvalues
    rw [namesOf, List.getElem?_map, Option.map_eq_some_iff] at hname
    obtain ⟨m, hm, rfl⟩ := hname
    rw [recordReader_array]
    refine readItems_body_faulty (fun p hp => ?_) hm ?_ blank behind rest
    · exact hreads (List.of_mem_zip hp).1 (hvalues p hp)
    · exact hspoilt (List.mem_of_getElem? hm) hfault

/-- A spoilt record does not start as null does. -/
theorem IsSpoiltText.head?_ne {names : List String} {reads spoilt : String → List Char → Prop}
    (htext : IsSpoiltText names reads spoilt text) : text.head? ≠ some 'n' := by
  cases htext <;> nofun

end FleetTrial.Json
