import FleetTrial.Json.Value
import FleetTrial.Proofs.Json.Records

/-!
# Written values

The text that a value is written as is one of the texts that present it: the one with no blanks, in
which a string escapes only what it must and an object lists its members in their declared order,
leaving out those that are absent.
-/

namespace FleetTrial.Json

section Strings

variable {text s : List Char}

/-- A hexadecimal digit is read back. -/
theorem hexDigit?_lowerHexDigit : ∀ n < 16, Text.hexDigit? (Text.lowerHexDigit n) = some n := by
  decide

/-- Two zeros and the two hexadecimal digits of a byte write it as a code unit. -/
theorem writesUnit_byte {n : Nat} (hn : n < 256) :
    WritesUnit ['0', '0', Text.lowerHexDigit (n / 16), Text.lowerHexDigit (n % 16)] n := by
  have hzero : Text.hexDigit? '0' = some 0 := rfl
  have hunit := WritesUnit.digits hzero hzero (hexDigit?_lowerHexDigit (n / 16) (by omega))
    (hexDigit?_lowerHexDigit (n % 16) (by omega))
  have hsum : ((0 * 16 + 0) * 16 + n / 16) * 16 + n % 16 = n := by omega
  rwa [hsum] at hunit

/-- The escape of a control character spells it. -/
theorem spells_control {c : Char} (hcontrol : c.toNat < 0x20) (hmore : Spells text s) :
    Spells ('\\' :: 'u' :: (['0', '0', Text.lowerHexDigit (c.toNat / 16),
      Text.lowerHexDigit (c.toNat % 16)] ++ text)) (c :: s) := by
  have hhigh : isHighSurrogate c.toNat = false := by
    simp only [isHighSurrogate, Bool.and_eq_false_iff, decide_eq_false_iff_not]
    omega
  have hlow : isLowSurrogate c.toNat = false := by
    simp only [isLowSurrogate, Bool.and_eq_false_iff, decide_eq_false_iff_not]
    omega
  have hspells := Spells.single (writesUnit_byte (by omega)) hhigh hlow hmore
  rwa [Char.ofNat_toNat] at hspells

/-- What a string writes for a character spells it. -/
theorem spells_escapeChar (c : Char) (hmore : Spells text s) :
    Spells (escapeChar c ++ text) (c :: s) := by
  unfold escapeChar
  by_cases hquote : c = '"'
  · subst c
    exact .short rfl hmore
  by_cases hbackslash : c = '\\'
  · subst c
    exact .short rfl hmore
  by_cases hnewline : c = '\n'
  · subst c
    exact .short rfl hmore
  by_cases hreturn : c = '\r'
  · subst c
    exact .short rfl hmore
  by_cases htab : c = '\t'
  · subst c
    exact .short rfl hmore
  by_cases hbackspace : c = '\x08'
  · subst c
    exact .short rfl hmore
  by_cases hfeed : c = '\x0c'
  · subst c
    exact .short rfl hmore
  simp only [hquote, hbackslash, hnewline, hreturn, htab, hbackspace, hfeed, if_false]
  by_cases hcontrol : c.toNat < 0x20
  · rw [if_pos hcontrol]
    exact spells_control hcontrol hmore
  · rw [if_neg hcontrol]
    exact .plain ⟨hquote, hbackslash, hcontrol⟩ hmore

/-- The characters of a written string spell it. -/
theorem spells_escaped (s : List Char) : Spells (s.flatMap escapeChar) s := by
  induction s with
  | nil => exact .nil
  | cons c s ih =>
    rw [List.flatMap_cons]
    exact spells_escapeChar c ih

end Strings

/-- A written string presents itself. -/
theorem isText_string (s : String) : IsText (Json.string s).text s :=
  ⟨_, by rw [Json.text, stringText], spells_escaped s.toList⟩

/-- A written count presents itself. -/
theorem isCount_number (n : UInt64) : IsCount (Json.number n.toNat).text n := by
  rw [IsCount, Json.text]

section Objects

/-- An entry without blanks, whose name escapes only what it must. -/
def NamedEntry.bare (key : String) (value : List Char) : NamedEntry where
  beforeName := .none
  spelt := key.toList.flatMap escapeChar
  afterName := .none
  beforeValue := .none
  value
  afterValue := .none
  key
  spells := spells_escaped _

/-- A member of an object as it is written. -/
def NamedEntry.written (p : String × Json) : NamedEntry := bare p.1 p.2.text

/-- The text of a written member is that of its name and of its value. -/
theorem NamedEntry.text_written (p : String × Json) :
    (written p).text = stringText p.1 ++ ':' :: p.2.text := by
  simp [written, bare, Entry.text, Gap.none, stringText]

/-- The text of members is that of the first one and that of further ones. -/
theorem membersText_cons (p : String × Json) (written : List (String × Json)) :
    membersText (p :: written) = (NamedEntry.written p).text ++
      further ((unnamed (written.map NamedEntry.written)).map Entry.text) := by
  induction written generalizing p with
  | nil =>
    rw [NamedEntry.text_written, membersText]
    exact (List.append_nil _).symm
  | cons next written ih =>
    rw [membersText, ih next, NamedEntry.text_written p]
    · simp only [further, unnamed, List.map_cons, List.flatMap_cons, List.append_assoc,
        List.cons_append]
    · exact List.cons_ne_nil _ _

/-- A written object is laid out from its written members, without blanks. -/
theorem text_object (written : List (String × Json)) :
    (Json.object written).text =
      objectText .none (unnamed (written.map NamedEntry.written)) := by
  rw [Json.text, objectText]
  cases written with
  | nil => rfl
  | cons p written =>
    rw [membersText_cons]
    rfl

/-- An item of an array as it is written. -/
def Item.written (v : Json) : Item := ⟨.none, v.text, .none⟩

/-- The items of an array are written as the first one and further ones. -/
theorem itemsText_cons (v : Json) (items : List Json) :
    itemsText (v :: items) = (Item.written v).text ++
      further ((items.map Item.written).map Item.text) := by
  have htext (v : Json) : (Item.written v).text = v.text := List.append_nil _
  induction items generalizing v with
  | nil =>
    rw [htext, itemsText]
    exact (List.append_nil _).symm
  | cons next items ih =>
    rw [itemsText, ih next, htext v]
    · simp only [further, List.map_cons, List.flatMap_cons, List.cons_append]
    · exact List.cons_ne_nil _ _

/-- A written array is laid out from its written items, without blanks. -/
theorem text_array (items : List Json) :
    (Json.array items).text = arrayText .none (items.map Item.written) := by
  rw [Json.text, arrayText]
  cases items with
  | nil => rfl
  | cons v items =>
    rw [itemsText_cons]
    rfl

/-- The text of a value is a JSON value. -/
theorem isJson_text (v : Json) : IsJson v.text := by
  match v with
  | .null => exact .null
  | .bool true => exact .true
  | .bool false => exact .false
  | .number n =>
    have hnumber := IsUnsigned.parts (isWhole_toDigits n) .none .none
    rw [List.append_nil, List.append_nil] at hnumber
    rw [Json.text]
    exact .positive hnumber
  | .string s =>
    rw [Json.text]
    exact .string (spells_escaped s.toList).isStringBody
  | .array items =>
    rw [text_array]
    refine .array _ _ (List.forall_mem_map.mpr fun item hitem => ?_)
    exact isJson_text item
  | .object members =>
    rw [text_object, unnamed]
    refine .object _ _ ?_ ?_
    · exact List.forall_mem_map.mpr fun e _ => e.spells.isStringBody
    · refine List.forall_mem_map.mpr (List.forall_mem_map.mpr fun p hp => ?_)
      exact isJson_text p.2
termination_by sizeOf v
decreasing_by
  · have hsize := List.sizeOf_lt_of_mem hitem
    simp only [Json.array.sizeOf_spec]
    omega
  · have hsize := List.sizeOf_lt_of_mem hp
    have hpair : sizeOf p = 1 + sizeOf p.1 + sizeOf p.2 := rfl
    simp only [Json.object.sizeOf_spec]
    omega

variable {α : Type} {k : String} {written more : List (String × Json)}

/-- The texts that written members give. -/
def givenBy (written : List (String × Json)) : List (String × List Char) :=
  written.map fun p => (p.1, p.2.text)

/-- A written object presents a record that knows the names of its members, in their declared
order. -/
theorem isRecordText_object {names : List String} (hnodup : names.Nodup)
    (hnames : (written.map (·.1)).Sublist names) :
    IsRecordText names (givenBy written) (Json.object written).text := by
  have hpairs : pairs (written.map NamedEntry.written) = givenBy written := by
    simp only [pairs, givenBy, List.map_map]
    rfl
  rw [text_object, ← hpairs]
  refine .object .none (fun e he hunknown => ?_) ?_
  · obtain ⟨p, hp, rfl⟩ := List.mem_map.mp he
    exact absurd (hnames.subset (List.mem_map_of_mem hp)) hunknown
  · have honce := hnodup.sublist hnames
    rw [List.nodup_iff_pairwise_ne, List.pairwise_map] at honce
    rw [AreOnce, List.pairwise_map]
    refine honce.imp ?_
    intro p later hne _
    exact hne

/-- A member that may be absent is written under its own name or not at all. -/
theorem sublist_optional (field : Option α) (json : α → Json) (k : String) :
    ((field.map fun value => (k, json value)).toList.map (·.1)).Sublist [k] := by
  cases field with
  | none => exact List.nil_sublist _
  | some => exact List.Sublist.refl _

/-- A member that may be absent gives nothing for other names. -/
theorem lookup_optional_of_ne {field : Option α} {json : α → Json} {k' : String} (hne : k' ≠ k) :
    (givenBy ((field.map fun value => (k, json value)).toList ++ more)).lookup k' =
      (givenBy more).lookup k' := by
  cases field with
  | none => rfl
  | some => exact lookup_cons_of_ne hne

/-- A member that may be absent gives its field, if its name is not written again. -/
theorem isGiven_optional {P : List Char → α → Prop} {json : α → Json} (field : Option α)
    (hP : ∀ value, P (json value).text value) (hmore : (givenBy more).lookup k = none) :
    IsGiven (IsNullable P) none
      ((givenBy ((field.map fun value => (k, json value)).toList ++ more)).lookup k) field := by
  cases field with
  | none =>
    rw [Option.map_none, Option.toList_none, List.nil_append, hmore]
    rfl
  | some value =>
    rw [Option.map_some, Option.toList_some, List.singleton_append, givenBy, List.map_cons,
      List.lookup_cons_self]
    exact .value (hP value)

end Objects

end FleetTrial.Json
