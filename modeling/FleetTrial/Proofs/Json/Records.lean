import FleetTrial.Proofs.Json.Presentation

/-!
# Reading records

A record is filled member by member. The members of an object are filled in the order in which they
stand, but what they fill is what they would fill in their declared order, since different members
set different fields. A member that stands twice, or whose value has the wrong shape, spoils the
record, whatever stands behind it.
-/

namespace FleetTrial.Json

variable {σ : Type} {members more : List (Member σ)} {m : Member σ} {a b : σ} {set : σ → σ}
  {given given' : List (String × List Char)} {text v : List Char}

/-- The names of members. -/
def namesOf (members : List (Member σ)) : List String := members.map (·.name)

/-- Whether two members change a record in either order alike. -/
def Member.Commutes (m m' : Member σ) : Prop :=
  ∀ text text' set set', m.reader.Accepts text set → m'.reader.Accepts text' set' →
    ∀ a, set (set' a) = set' (set a)

/-- What a member of a field is set to. -/
theorem Member.exists_put {α : Type} {name : String} {r : Reader α} {put : α → σ → σ}
    (haccepts : (Member.of name r put).reader.Accepts text set) : ∃ x, set = put x := by
  have hrun := haccepts.run .none [] .nothing
  simp only [Member.of, Reader.map] at hrun
  cases hread : r.run (Gap.none.text ++ (text ++ [])) with
  | error fault =>
    rw [hread] at hrun
    cases hrun
  | ok p =>
    rw [hread] at hrun
    exact ⟨p.1, (Prod.mk.inj (Except.ok.inj hrun)).1.symm⟩

/-- Members that set different fields commute. -/
theorem Member.commutes_of {α β : Type} {name name' : String} {r : Reader α} {r' : Reader β}
    {put : α → σ → σ} {put' : β → σ → σ} (hput : ∀ x y a, put x (put' y a) = put' y (put x a)) :
    (Member.of name r put).Commutes (.of name' r' put') := by
  intro text text' set set' haccepts haccepts' a
  obtain ⟨x, rfl⟩ := Member.exists_put haccepts
  obtain ⟨y, rfl⟩ := Member.exists_put haccepts'
  exact hput x y a

/-- Whether members have names of their own and change a record in any order alike. -/
structure AreFields (members : List (Member σ)) : Prop where
  names : (namesOf members).Nodup
  commute : members.Pairwise Member.Commutes

/-- What the members of a record make of it in their declared order, if these texts are given. -/
inductive Fills (given : List (String × List Char)) : List (Member σ) → σ → σ → Prop
  | nil (a : σ) : Fills given [] a a
  | absent {m : Member σ} {more : List (Member σ)} {a b : σ} (hnone : given.lookup m.name = none)
    (hmore : Fills given more a b) : Fills given (m :: more) a b
  | present {m : Member σ} {more : List (Member σ)} {a b : σ} {text : List Char} {set : σ → σ}
    (hsome : given.lookup m.name = some text) (haccepts : m.reader.Accepts text set)
    (hmore : Fills given more (set a) b) : Fills given (m :: more) a b

/-- What the members make of a record depends on the texts that are given to them only. -/
theorem Fills.congr (hfills : Fills given members a b)
    (hsame : ∀ name ∈ namesOf members, given.lookup name = given'.lookup name) :
    Fills given' members a b := by
  induction hfills with
  | nil => exact .nil _
  | absent hnone _ ih =>
    refine .absent ?_ (ih fun name hname => hsame name (List.mem_cons_of_mem _ hname))
    rw [← hsame _ List.mem_cons_self, hnone]
  | present hsome haccepts _ ih =>
    refine .present ?_ haccepts (ih fun name hname => hsame name (List.mem_cons_of_mem _ hname))
    rw [← hsame _ List.mem_cons_self, hsome]

/-- Without any texts a record stays as it is. -/
theorem Fills.eq_of_nil (hfills : Fills [] members a b) : a = b := by
  induction hfills with
  | nil => rfl
  | absent _ _ ih => exact ih
  | present hsome => cases hsome

/-- The members behind a field are fields. -/
theorem AreFields.tail (hfields : AreFields (m :: more)) : AreFields more :=
  ⟨hfields.names.of_cons, hfields.commute.of_cons⟩

/-- Of some fields one is found by its name. -/
theorem AreFields.eq_of_name {m' : Member σ} (hfields : AreFields (m :: more))
    (hm' : m' ∈ m :: more) (hname : m.name = m'.name) : m' = m := by
  obtain rfl | hmore := List.mem_cons.mp hm'
  · rfl
  · have hnot : m.name ∉ namesOf more := (List.nodup_cons.mp hfields.names).1
    exact absurd (hname ▸ List.mem_map_of_mem hmore) hnot

/-- Another name finds what it finds behind a pair. -/
theorem lookup_cons_of_ne {name name' : String} (hne : name ≠ name') :
    ((name', text) :: given).lookup name = given.lookup name := by
  rw [List.lookup_cons, beq_eq_false_iff_ne.mpr hne]

/-- A member may be filled before those in front of it. -/
theorem Fills.first (hfields : AreFields members) (hm : m ∈ members)
    (hfills : Fills ((m.name, text) :: given) members a b) (hnone : given.lookup m.name = none) :
    ∃ set, m.reader.Accepts text set ∧ Fills given members (set a) b := by
  induction hfills with
  | nil => cases hm
  | @absent m' more a b hnone' hmore ih =>
    have hne : m'.name ≠ m.name := by
      intro heq
      rw [heq, List.lookup_cons_self] at hnone'
      cases hnone'
    have hmem : m ∈ more := (List.mem_cons.mp hm).resolve_left fun heq => hne (heq ▸ rfl)
    rw [lookup_cons_of_ne hne] at hnone'
    obtain ⟨set, haccepts, hfills⟩ := ih hfields.tail hmem
    exact ⟨set, haccepts, .absent hnone' hfills⟩
  | @present m' more a b text' set' hsome haccepts' hmore ih =>
    by_cases heq : m'.name = m.name
    · obtain rfl := hfields.eq_of_name hm heq
      rw [List.lookup_cons_self] at hsome
      cases hsome
      refine ⟨set', haccepts', .absent hnone (hmore.congr fun name hname => ?_)⟩
      exact lookup_cons_of_ne (ne_of_mem_of_not_mem hname (List.nodup_cons.mp hfields.names).1)
    · have hmem : m ∈ more := (List.mem_cons.mp hm).resolve_left fun h => heq (h ▸ rfl)
      rw [lookup_cons_of_ne heq] at hsome
      obtain ⟨set, haccepts, hfills⟩ := ih hfields.tail hmem
      have hcommute : set' (set a) = set (set' a) :=
        (List.pairwise_cons.mp hfields.commute).1 m hmem _ _ _ _ haccepts' haccepts a
      exact ⟨set, haccepts, .present hsome haccepts' (hcommute ▸ hfills)⟩

/-- A field is found by its name. -/
theorem AreFields.find?_eq (hfields : AreFields members) (hm : m ∈ members) :
    (members.find? fun m' => m'.name.toList == m.name.toList) = some m := by
  induction members with
  | nil => cases hm
  | cons m' more ih =>
    by_cases heq : m'.name = m.name
    · obtain rfl := hfields.eq_of_name hm heq
      rw [List.find?_cons, beq_self_eq_true]
    · have hmem : m ∈ more := (List.mem_cons.mp hm).resolve_left fun h => heq (h ▸ rfl)
      rw [List.find?_cons_of_neg (by simpa [String.toList_inj] using heq)]
      exact ih hfields.tail hmem

/-- What holds of the member of a name holds of every member of that name. -/
theorem AreFields.of_name {P : Member σ → Prop} (hfields : AreFields members) (hm : m ∈ members)
    (hnamed : ∃ m' ∈ members, m'.name = m.name ∧ P m') : P m := by
  obtain ⟨m', hm', hname, hP⟩ := hnamed
  have hfind := hfields.find?_eq hm'
  rw [hname, hfields.find?_eq hm] at hfind
  exact Option.some.inj hfind ▸ hP

/-- No member is found by a name that none has. -/
theorem find?_eq_none {key : String} (hkey : key ∉ namesOf members) :
    (members.find? fun m => m.name.toList == key.toList) = none := by
  rw [List.find?_eq_none]
  intro m hm heq
  rw [beq_iff_eq, String.toList_inj] at heq
  exact hkey (heq ▸ List.mem_map_of_mem hm)

/-- A field is filled with what is given for it, the record having its default there before. -/
theorem Fills.field {α : Type} {name : String} {r : Reader α} {put : α → σ → σ}
    {P : List Char → α → Prop} {default value : α}
    (hgiven : IsGiven P default (given.lookup name) value)
    (haccepts : ∀ text value, P text value → r.Accepts text value) (hdefault : put default a = a)
    (hmore : Fills given more (put value a) b) : Fills given (.of name r put :: more) a b := by
  cases hlookup : given.lookup name with
  | none =>
    rw [hlookup] at hgiven
    obtain rfl : value = default := hgiven
    exact .absent hlookup (hdefault ▸ hmore)
  | some text =>
    rw [hlookup] at hgiven
    exact .present hlookup ((haccepts text value hgiven).map put) hmore

section Objects

variable {e : NamedEntry} {entries : List NamedEntry} {seen : List (List Char)} {first : Bool}
  {after : List Char}

/-- What stands behind the name of an entry. -/
def NamedEntry.behindName (e : NamedEntry) (after : List Char) : List Char :=
  e.afterName.text ++ ':' :: (e.beforeValue.text ++ (e.value ++ (e.afterValue.text ++ after)))

/-- The text of an entry is that of its name and what stands behind it. -/
theorem NamedEntry.text_append (e : NamedEntry) (after : List Char) :
    e.text ++ after = e.beforeName.text ++ '"' :: (e.spelt ++ '"' :: e.behindName after) := by
  simp only [Entry.text, behindName, List.append_assoc, List.cons_append]

/-- The name of an entry is read, without the blanks before it. -/
theorem NamedEntry.readName (e : NamedEntry) (after : List Char) :
    readName (skipGap (e.text ++ after)) = .ok (e.key.toList, e.behindName after) := by
  rw [e.text_append, e.beforeName.skipGap_cons rfl]
  exact e.spells.readString _

/-- The name of the first entry is found. -/
theorem nextName_first (e : NamedEntry) (after : List Char) :
    nextName true (e.text ++ after) = .ok (some e.key.toList, e.behindName after) := by
  have hname := e.readName after
  have hskip : skipGap (e.text ++ after) = '"' :: (e.spelt ++ '"' :: e.behindName after) := by
    rw [e.text_append, e.beforeName.skipGap_cons rfl]
  rw [hskip] at hname
  unfold nextName
  rw [hskip]
  exact congrArg (Except.map fun p => (some p.1, p.2)) hname

/-- The name of a further entry is found behind its comma. -/
theorem nextName_further (g : Gap) (e : NamedEntry) (after : List Char) :
    nextName false (g.text ++ ',' :: (e.text ++ after)) =
      .ok (some e.key.toList, e.behindName after) := by
  have hskip : skipGap (g.text ++ ',' :: (e.text ++ after)) = ',' :: (e.text ++ after) :=
    g.skipGap_cons rfl _
  simp only [nextName, hskip, e.readName after]
  rfl

/-- Where no further name is found, an object is over. -/
theorem readMembers_of_none {behind : List Char}
    (hnext : nextName first text = .ok (none, behind)) :
    readMembers members a seen first text = .ok (a, behind) := by
  rw [readMembers]
  split
  · rename_i heq
    cases hnext.symm.trans heq
  · rename_i heq
    cases hnext.symm.trans heq
    rfl
  · rename_i heq
    cases hnext.symm.trans heq

/-- At its closing brace an object is over. -/
theorem readMembers_brace (g : Gap) (rest : List Char) :
    readMembers members a seen first (g.text ++ '\x7d' :: rest) = .ok (a, rest) := by
  have hskip : skipGap (g.text ++ '\x7d' :: rest) = '\x7d' :: rest := g.skipGap_cons rfl _
  exact readMembers_of_none (by simp only [nextName, hskip])

/-- An entry that has been read is followed by the rest of its object. -/
theorem readMembers_of_ok {name behind : List Char}
    (hnext : nextName first text = .ok (some name, behind))
    (hmember : readMember members seen name behind = .ok (set, after)) :
    readMembers members a seen first text =
      readMembers members (set a) (name :: seen) false after := by
  rw [readMembers]
  split
  · rename_i heq
    cases hnext.symm.trans heq
  · rename_i heq
    cases hnext.symm.trans heq
  · rename_i heq
    cases hnext.symm.trans heq
    split
    · rename_i heq
      cases hmember.symm.trans heq
    · rename_i heq
      cases hmember.symm.trans heq
      rfl

/-- An entry that cannot be read ends its object. -/
theorem readMembers_of_error {name behind : List Char} {fault : Fault}
    (hnext : nextName first text = .ok (some name, behind))
    (hmember : readMember members seen name behind = .error fault) :
    readMembers members a seen first text = .error fault := by
  rw [readMembers]
  split
  · rename_i heq
    cases hnext.symm.trans heq
  · rename_i heq
    cases hnext.symm.trans heq
  · rename_i heq
    cases hnext.symm.trans heq
    split
    · rename_i heq
      cases hmember.symm.trans heq
      rfl
    · rename_i heq
      cases hmember.symm.trans heq

/-- The value of an unknown entry is passed over. -/
theorem readMember_of_unknown (hkey : e.key ∉ namesOf members) (hjson : IsJson e.value)
    (hbounds : Bounds (e.afterValue.text ++ after)) :
    readMember members seen e.key.toList (e.behindName after) =
      .ok (id, e.afterValue.text ++ after) := by
  simp only [readMember, find?_eq_none hkey, NamedEntry.behindName, skipColon_append, Except.bind,
    hjson.skipValue e.beforeValue hbounds, Except.map]

/-- The value of a known entry is read by its member. -/
theorem readMember_of_known (hfields : AreFields members) (hm : m ∈ members)
    (hkey : m.name = e.key) (hnew : e.key.toList ∉ seen) :
    readMember members seen e.key.toList (e.behindName after) =
      m.reader.run (e.beforeValue.text ++ (e.value ++ (e.afterValue.text ++ after))) := by
  have hfind := hfields.find?_eq hm
  have hcontains : seen.contains e.key.toList = false := by
    rw [List.contains_eq_mem, decide_eq_false_iff_not]
    exact hnew
  rw [hkey] at hfind
  simp only [readMember, hfind, hcontains, Bool.false_eq_true, if_false, NamedEntry.behindName,
    skipColon_append, Except.bind]

/-- A known entry whose name has been seen before is a fault. -/
theorem readMember_of_seen (hfields : AreFields members) (hm : m ∈ members)
    (hkey : m.name = e.key) (hseen : e.key.toList ∈ seen) (behind : List Char) :
    readMember members seen e.key.toList behind = .error .mismatched := by
  have hfind := hfields.find?_eq hm
  have hcontains : seen.contains e.key.toList = true := by
    rw [List.contains_eq_mem, decide_eq_true_eq]
    exact hseen
  rw [hkey] at hfind
  simp only [readMember, hfind, hcontains, if_true]

/-- The entries of an object with the brace behind them, each behind a comma. -/
def furtherEntries (entries : List NamedEntry) (rest : List Char) : List Char :=
  further ((unnamed entries).map Entry.text) ++ '\x7d' :: rest

/-- Behind a value stand further entries or the end of the object. -/
theorem bounds_furtherEntries (g : Gap) (entries : List NamedEntry) (rest : List Char) :
    Bounds (g.text ++ furtherEntries entries rest) :=
  g.bounds (Frame.object.bounds_further _ rest)

theorem furtherEntries_cons (e : NamedEntry) (entries : List NamedEntry) (rest : List Char) :
    furtherEntries (e :: entries) rest = ',' :: (e.text ++ furtherEntries entries rest) := by
  simp only [furtherEntries, unnamed, further, List.map_cons, List.flatMap_cons, List.cons_append,
    List.append_assoc]

/-- Whether no known name among some entries has been seen before. -/
def AreNew (members : List (Member σ)) (seen : List (List Char)) (entries : List NamedEntry) :
    Prop :=
  ∀ e ∈ entries, e.key ∈ namesOf members → e.key.toList ∉ seen

/-- The names of later entries are new behind an entry if none of them stands twice. -/
theorem AreNew.tail (hnew : AreNew members seen (e :: entries))
    (honce : AreOnce (namesOf members) (e :: entries)) :
    AreNew members (e.key.toList :: seen) entries := by
  intro later hlater hknown hmem
  obtain heq | hseen := List.mem_cons.mp hmem
  · have heq : later.key = e.key := String.toList_inj.mp heq
    exact (List.pairwise_cons.mp honce).1 later hlater (heq ▸ hknown) heq.symm
  · exact hnew later (List.mem_cons_of_mem e hlater) hknown hseen

/-- A known name that stands once is not among later entries. -/
theorem lookup_pairs_eq_none {names : List String} (hknown : e.key ∈ names)
    (honce : AreOnce names (e :: entries)) : (pairs entries).lookup e.key = none := by
  rw [List.lookup_eq_none_iff]
  intro p hp
  obtain ⟨later, hlater, rfl⟩ := List.mem_map.mp hp
  exact bne_iff_ne.mpr ((List.pairwise_cons.mp honce).1 later hlater hknown)

/-- A known entry is read by its member, and the record goes on to the entries behind it. -/
theorem readMembers_known {rest : List Char} (hfields : AreFields members) (hm : m ∈ members)
    (hkey : m.name = e.key) (hnew : e.key.toList ∉ seen) (haccepts : m.reader.Accepts e.value set)
    (hnext : nextName first text =
      .ok (some e.key.toList, e.behindName (furtherEntries entries rest))) :
    readMembers members a seen first text =
      readMembers members (set a) (e.key.toList :: seen) false
        (e.afterValue.text ++ furtherEntries entries rest) := by
  apply readMembers_of_ok hnext
  rw [readMember_of_known hfields hm hkey hnew]
  exact haccepts.run _ _ (bounds_furtherEntries e.afterValue entries rest)

/-- An unknown entry is passed over, and the record goes on as it is. -/
theorem readMembers_unknown {rest : List Char} (hkey : e.key ∉ namesOf members)
    (hjson : IsJson e.value)
    (hnext : nextName first text =
      .ok (some e.key.toList, e.behindName (furtherEntries entries rest))) :
    readMembers members a seen first text =
      readMembers members a (e.key.toList :: seen) false
        (e.afterValue.text ++ furtherEntries entries rest) :=
  readMembers_of_ok hnext
    (readMember_of_unknown hkey hjson (bounds_furtherEntries e.afterValue entries rest))

/-- **An entry is read,** and the record goes on to what the entries behind it make of it. -/
theorem readMembers_entry (hfields : AreFields members)
    (hsound : AreSound (namesOf members) (e :: entries))
    (honce : AreOnce (namesOf members) (e :: entries)) (hnew : AreNew members seen (e :: entries))
    (hfills : Fills (pairs (e :: entries)) members a b) {rest : List Char}
    (hnext : nextName first text =
      .ok (some e.key.toList, e.behindName (furtherEntries entries rest))) :
    ∃ next, Fills (pairs entries) members next b ∧
      readMembers members a seen first text =
        readMembers members next (e.key.toList :: seen) false
          (e.afterValue.text ++ furtherEntries entries rest) := by
  by_cases hknown : e.key ∈ namesOf members
  · obtain ⟨m, hm, hkey⟩ := List.mem_map.mp hknown
    have hnone := lookup_pairs_eq_none hknown honce
    have hpairs : pairs (e :: entries) = (m.name, e.value) :: pairs entries := by
      rw [hkey]
      rfl
    rw [hpairs] at hfills
    obtain ⟨set, haccepts, hfills⟩ := hfills.first hfields hm (hkey ▸ hnone)
    exact ⟨set a, hfills,
      readMembers_known hfields hm hkey (hnew e List.mem_cons_self hknown) haccepts hnext⟩
  · refine ⟨a, hfills.congr fun name hname => ?_, ?_⟩
    · exact lookup_cons_of_ne (ne_of_mem_of_not_mem hname hknown)
    · exact readMembers_unknown hknown (hsound e List.mem_cons_self hknown) hnext

/-- Further entries are read up to the end of the object. -/
theorem readMembers_further (hfields : AreFields members)
    (hsound : AreSound (namesOf members) entries) (honce : AreOnce (namesOf members) entries)
    (hnew : AreNew members seen entries) (hfills : Fills (pairs entries) members a b) (g : Gap)
    (rest : List Char) :
    readMembers members a seen false (g.text ++ furtherEntries entries rest) = .ok (b, rest) := by
  induction entries generalizing a seen g with
  | nil =>
    obtain rfl := hfills.eq_of_nil
    exact readMembers_brace g rest
  | cons e entries ih =>
    rw [furtherEntries_cons]
    obtain ⟨next, hfills, hread⟩ := readMembers_entry hfields hsound honce hnew hfills
      (nextName_further g e (furtherEntries entries rest))
    rw [hread]
    exact ih (fun e' he' => hsound e' (List.mem_cons_of_mem e he')) honce.of_cons
      (hnew.tail honce) hfills e.afterValue

/-- The parts of an object with entries are the first one and further ones. -/
theorem body_unnamed_cons (blank : Gap) (e : NamedEntry) (entries : List NamedEntry)
    (rest : List Char) :
    body blank ((unnamed (e :: entries)).map Entry.text) ++ '\x7d' :: rest =
      e.text ++ furtherEntries entries rest := by
  simp only [unnamed, List.map_cons, body, furtherEntries, List.append_assoc]

/-- The entries of an object are read up to its end. -/
theorem readMembers_body (hfields : AreFields members) (hsound : AreSound (namesOf members) entries)
    (honce : AreOnce (namesOf members) entries) (hfills : Fills (pairs entries) members a b)
    (blank : Gap) (rest : List Char) :
    readMembers members a [] true
      (body blank ((unnamed entries).map Entry.text) ++ '\x7d' :: rest) = .ok (b, rest) := by
  cases entries with
  | nil =>
    obtain rfl := hfills.eq_of_nil
    exact readMembers_brace blank rest
  | cons e entries =>
    have hnew : AreNew members [] (e :: entries) := fun _ _ _ => List.not_mem_nil
    rw [body_unnamed_cons]
    obtain ⟨next, hfills, hread⟩ := readMembers_entry hfields hsound honce hnew hfills
      (nextName_first e (furtherEntries entries rest))
    rw [hread]
    exact readMembers_further hfields (fun e' he' => hsound e' (List.mem_cons_of_mem e he'))
      honce.of_cons (hnew.tail honce) hfills e.afterValue rest

end Objects

section Arrays

variable {i : Item} {items : List Item} {first : Bool} {rest : List Char}

/-- The items of an array with the bracket behind them, each behind a comma. -/
def furtherItems (items : List Item) (rest : List Char) : List Char :=
  further (items.map Item.text) ++ ']' :: rest

theorem furtherItems_cons (i : Item) (items : List Item) (rest : List Char) :
    furtherItems (i :: items) rest = ',' :: (i.text ++ furtherItems items rest) := by
  simp only [furtherItems, further, List.map_cons, List.flatMap_cons, List.cons_append,
    List.append_assoc]

/-- The text of an item without the blanks before it is that of its value and what stands behind. -/
theorem Item.skipGap_text (hopens : Opens i.value) (after : List Char) :
    skipGap (i.text ++ after) = i.value ++ (i.after.text ++ after) := by
  obtain ⟨c, more, hvalue, hgap, _⟩ := hopens
  rw [Item.text, List.append_assoc, List.append_assoc, hvalue]
  exact i.before.skipGap_cons hgap _

/-- The first item is found. -/
theorem nextItem_first (hopens : Opens i.value) (after : List Char) :
    nextItem true (i.text ++ after) = .ok (some (i.value ++ (i.after.text ++ after))) := by
  have hskip := Item.skipGap_text hopens after
  obtain ⟨c, more, hvalue, _, hcomma, hbracket⟩ := hopens
  rw [hvalue] at hskip ⊢
  unfold nextItem
  rw [hskip]
  split
  · cases ‹_ = []›
  · rename_i heq
    cases heq
    exact absurd rfl hbracket
  · rename_i heq
    cases heq
    exact absurd rfl hcomma
  · rfl

/-- A further item is found behind its comma. -/
theorem nextItem_further (g : Gap) (hopens : Opens i.value) (after : List Char) :
    nextItem false (g.text ++ ',' :: (i.text ++ after)) =
      .ok (some (i.value ++ (i.after.text ++ after))) := by
  have hcomma : skipGap (g.text ++ ',' :: (i.text ++ after)) = ',' :: (i.text ++ after) :=
    g.skipGap_cons rfl _
  have hskip := Item.skipGap_text hopens after
  obtain ⟨c, more, hvalue, _, _, hbracket⟩ := hopens
  rw [hvalue] at hskip ⊢
  simp only [nextItem, hcomma, Bool.false_eq_true, if_false, hskip]
  split
  · cases ‹_ = []›
  · rename_i heq
    cases heq
    exact absurd rfl hbracket
  · rfl

/-- At its closing bracket an array is over. -/
theorem readItems_bracket (g : Gap) (rest : List Char) :
    readItems a first members (g.text ++ ']' :: rest) = .ok (a, rest) := by
  have hskip : skipGap (g.text ++ ']' :: rest) = ']' :: rest := g.skipGap_cons rfl _
  have hclose : closeArray (g.text ++ ']' :: rest) = .ok rest := by
    simp only [closeArray, hskip]
  cases members with
  | nil => simp only [readItems, hclose, Except.map]
  | cons m more =>
    have hnext : nextItem first (g.text ++ ']' :: rest) = .ok none := by
      simp only [nextItem, hskip]
    simp only [readItems, hnext, hclose, Except.map]

/-- A value in front of blanks is taken where blanks may stand before it. -/
theorem Reader.Accepts.run_value {α : Type} {r : Reader α} {x : α} (haccepts : r.Accepts text x)
    (hrest : Bounds rest) : r.run (text ++ rest) = .ok (x, rest) :=
  haccepts.run .none rest hrest

/-- What the first of some members makes of a record, and what the others make of it then, if the
texts are given in their order. -/
theorem Fills.zip_cons (hnodup : (namesOf (m :: more)).Nodup) {texts : List (List Char)}
    (hfills : Fills ((namesOf (m :: more)).zip (text :: texts)) (m :: more) a b) :
    ∃ set, m.reader.Accepts text set ∧ Fills ((namesOf more).zip texts) more (set a) b := by
  have hzip : (namesOf (m :: more)).zip (text :: texts) =
      (m.name, text) :: (namesOf more).zip texts := rfl
  rw [hzip] at hfills
  cases hfills with
  | absent hnone =>
    rw [List.lookup_cons_self] at hnone
    cases hnone
  | present hsome haccepts hmore =>
    rw [List.lookup_cons_self] at hsome
    cases hsome
    refine ⟨_, haccepts, hmore.congr fun name hname => ?_⟩
    exact lookup_cons_of_ne (ne_of_mem_of_not_mem hname (List.nodup_cons.mp hnodup).1)

/-- An item that has been read is followed by the rest of its array. -/
theorem readItems_of_ok {item after : List Char} (hnext : nextItem first text = .ok (some item))
    (hrun : m.reader.run item = .ok (set, after)) :
    readItems a first (m :: more) text = readItems (set a) false more after := by
  rw [readItems, hnext]
  simp only [hrun]

/-- An item that cannot be read ends its array. -/
theorem readItems_of_error {item : List Char} {fault : Fault}
    (hnext : nextItem first text = .ok (some item)) (hrun : m.reader.run item = .error fault) :
    readItems a first (m :: more) text = .error fault := by
  rw [readItems, hnext]
  simp only [hrun]

/-- An item is read by the first member, and the record goes on to the items behind it. -/
theorem readItems_item (haccepts : m.reader.Accepts i.value set)
    (hnext : nextItem first text =
      .ok (some (i.value ++ (i.after.text ++ furtherItems items rest)))) :
    readItems a first (m :: more) text =
      readItems (set a) false more (i.after.text ++ furtherItems items rest) := by
  have hbounds : Bounds (i.after.text ++ furtherItems items rest) :=
    i.after.bounds (Frame.array.bounds_further _ rest)
  exact readItems_of_ok hnext (haccepts.run_value hbounds)

/-- Further items are read in the order of the members, up to the end of the array. -/
theorem readItems_further (hnodup : (namesOf members).Nodup)
    (hlength : items.length ≤ members.length)
    (hfills : Fills ((namesOf members).zip (items.map (·.value))) members a b) (g : Gap)
    (rest : List Char) :
    readItems a false members (g.text ++ furtherItems items rest) = .ok (b, rest) := by
  induction items generalizing members a g with
  | nil =>
    rw [List.map_nil, List.zip_nil_right] at hfills
    obtain rfl := hfills.eq_of_nil
    exact readItems_bracket g rest
  | cons i items ih =>
    cases members with
    | nil => cases hlength
    | cons m more =>
      obtain ⟨set, haccepts, hfills⟩ := hfills.zip_cons hnodup
      rw [furtherItems_cons, readItems_item haccepts (nextItem_further g haccepts.opens _)]
      exact ih hnodup.of_cons (Nat.le_of_succ_le_succ hlength) hfills i.after

/-- The parts of an array with items are the first one and further ones. -/
theorem body_items_cons (blank : Gap) (i : Item) (items : List Item) (rest : List Char) :
    body blank ((i :: items).map Item.text) ++ ']' :: rest =
      i.text ++ furtherItems items rest := by
  simp only [List.map_cons, body, furtherItems, List.append_assoc]

/-- The items of an array are read in the order of the members, up to its end. -/
theorem readItems_body (hnodup : (namesOf members).Nodup)
    (hlength : items.length ≤ members.length)
    (hfills : Fills ((namesOf members).zip (items.map (·.value))) members a b) (blank : Gap)
    (rest : List Char) :
    readItems a true members (body blank (items.map Item.text) ++ ']' :: rest) =
      .ok (b, rest) := by
  cases items with
  | nil =>
    rw [List.map_nil, List.zip_nil_right] at hfills
    obtain rfl := hfills.eq_of_nil
    exact readItems_bracket blank rest
  | cons i items =>
    cases members with
    | nil => cases hlength
    | cons m more =>
      obtain ⟨set, haccepts, hfills⟩ := hfills.zip_cons hnodup
      rw [body_items_cons, readItems_item haccepts (nextItem_first haccepts.opens _)]
      exact readItems_further hnodup.of_cons (Nat.le_of_succ_le_succ hlength) hfills i.after rest

end Arrays

/-- An object is read by its entries. -/
theorem recordReader_object (g blank : Gap) (entries : List NamedEntry) (rest : List Char) :
    (recordReader members a).run (g.text ++ (objectText blank (unnamed entries) ++ rest)) =
      readMembers members a [] true
        (body blank ((unnamed entries).map Entry.text) ++ '\x7d' :: rest) := by
  have hskip : skipGap (g.text ++ (objectText blank (unnamed entries) ++ rest)) =
      '\x7b' :: (body blank ((unnamed entries).map Entry.text) ++ '\x7d' :: rest) := by
    rw [objectText, List.cons_append, List.append_assoc]
    exact g.skipGap_cons rfl _
  simp only [recordReader, hskip]

/-- An array is read by its items. -/
theorem recordReader_array (g blank : Gap) (items : List Item) (rest : List Char) :
    (recordReader members a).run (g.text ++ (arrayText blank items ++ rest)) =
      readItems a true members (body blank (items.map Item.text) ++ ']' :: rest) := by
  have hskip : skipGap (g.text ++ (arrayText blank items ++ rest)) =
      '[' :: (body blank (items.map Item.text) ++ ']' :: rest) := by
    rw [arrayText, List.cons_append, List.append_assoc]
    exact g.skipGap_cons rfl _
  simp only [recordReader, hskip]

/-- **A record is accepted** in any of its texts, as what its members make of its defaults. -/
theorem IsRecordText.accepts (hfields : AreFields members)
    (htext : IsRecordText (namesOf members) given text) (hfills : Fills given members a b) :
    (recordReader members a).Accepts text b := by
  cases htext with
  | @object blank entries hsound honce =>
    refine ⟨⟨'\x7b', _, rfl, rfl, by decide, by decide⟩, fun g rest _ => ?_⟩
    rw [recordReader_object, readMembers_body hfields hsound honce hfills]
  | @array blank items hlength =>
    refine ⟨⟨'[', _, rfl, rfl, by decide, by decide⟩, fun g rest _ => ?_⟩
    rw [namesOf, List.length_map] at hlength
    rw [recordReader_array, readItems_body hfields.names hlength hfills]

/-- A record does not start as null does. -/
theorem IsRecordText.head?_ne {names : List String} (htext : IsRecordText names given text) :
    text.head? ≠ some 'n' := by
  cases htext <;> nofun

end FleetTrial.Json
