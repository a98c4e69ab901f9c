import FleetTrial.Proofs.Json.ReadBack
import FleetTrial.Proofs.Json.Spoilt
import FleetTrial.Resource.Snapshot

/-!
# Texts of a snapshot

A snapshot has as many texts as its members can be presented in. They stand in any order, among any
others, absent ones as null or not at all, each record as an object or an array, with blanks
wherever they like. The reading of a snapshot depends on none of that. What it does not bear is a
known name that stands twice in one object, or metadata that is null: such a text has the wrong
shape.
-/

namespace FleetTrial

open Json

/-- Whether a text presents metadata. -/
def Metadata.IsShown (text : List Char) (m : Metadata) : Prop :=
  ∃ given, IsRecordText ["name", "selfLink"] given text ∧
    IsGiven (IsNullable IsText) none (given.lookup "name") m.name ∧
    IsGiven (IsNullable IsText) none (given.lookup "selfLink") m.selfLink

/-- Whether a text presents a status. -/
def Status.IsShown (text : List Char) (s : Status) : Prop :=
  ∃ given, IsRecordText ["readyReplicas", "state", "gameServerName"] given text ∧
    IsGiven (IsNullable IsCount) none (given.lookup "readyReplicas") s.readyReplicas ∧
    IsGiven (IsNullable IsText) none (given.lookup "state") s.state ∧
    IsGiven (IsNullable IsText) none (given.lookup "gameServerName") s.gameServerName

/-- Whether a text presents a snapshot. -/
def Snapshot.IsShown (text : List Char) (s : Snapshot) : Prop :=
  ∃ given, IsRecordText ["metadata", "status"] given text ∧
    IsGiven Metadata.IsShown .empty (given.lookup "metadata") s.metadata ∧
    IsGiven (IsNullable Status.IsShown) none (given.lookup "status") s.status

/-- What the members of metadata are read from. -/
inductive Metadata.Reads : String → List Char → Prop
  | name {text : List Char} {value : Option String} (hvalue : IsNullable IsText text value) :
    Reads "name" text
  | selfLink {text : List Char} {value : Option String} (hvalue : IsNullable IsText text value) :
    Reads "selfLink" text

/-- What the members of a status are read from. -/
inductive Status.Reads : String → List Char → Prop
  | readyReplicas {text : List Char} {value : Option UInt64}
    (hvalue : IsNullable IsCount text value) : Reads "readyReplicas" text
  | state {text : List Char} {value : Option String} (hvalue : IsNullable IsText text value) :
    Reads "state" text
  | gameServerName {text : List Char} {value : Option String}
    (hvalue : IsNullable IsText text value) : Reads "gameServerName" text

/-- What the members of a snapshot are read from. -/
inductive Snapshot.Reads : String → List Char → Prop
  | metadata {text : List Char} {m : Metadata} (hvalue : Metadata.IsShown text m) :
    Reads "metadata" text
  | status {text : List Char} {s : Option Status} (hvalue : IsNullable Status.IsShown text s) :
    Reads "status" text

/-- Whether a text repeats a member of metadata. -/
def Metadata.IsRepetitive (text : List Char) : Prop :=
  IsSpoiltText ["name", "selfLink"] Reads (fun _ _ => False) text

/-- Whether a text repeats a member of a status. -/
def Status.IsRepetitive (text : List Char) : Prop :=
  IsSpoiltText ["readyReplicas", "state", "gameServerName"] Reads (fun _ _ => False) text

/-- What spoils a member of a snapshot: null for metadata, or a repeated member inside. -/
inductive Snapshot.Spoils : String → List Char → Prop
  | null : Spoils "metadata" ['n', 'u', 'l', 'l']
  | metadata {text : List Char} (hrepeats : Metadata.IsRepetitive text) : Spoils "metadata" text
  | status {text : List Char} (hrepeats : Status.IsRepetitive text) : Spoils "status" text

/-- Whether a text repeats a member of a snapshot or has a member that is spoilt. -/
def Snapshot.IsSpoilt (text : List Char) : Prop :=
  IsSpoiltText ["metadata", "status"] Reads Spoils text

/-- A string that may be null is accepted. -/
theorem accepts_nullable_text (text : List Char) (value : Option String)
    (hvalue : IsNullable IsText text value) : textReader.nullable.Accepts text value :=
  Reader.accepts_nullable (fun _ _ => IsText.accepts) (fun _ _ => IsText.head?_ne) hvalue

/-- A count that may be null is accepted. -/
theorem accepts_nullable_count (text : List Char) (value : Option UInt64)
    (hvalue : IsNullable IsCount text value) : countReader.nullable.Accepts text value :=
  Reader.accepts_nullable (fun _ _ => IsCount.accepts) (fun _ _ => IsCount.head?_ne) hvalue

namespace Metadata

variable {text : List Char}

/-- The members of metadata are fields. -/
theorem areFields : AreFields members where
  names := by decide
  commute := by
    have hcommutes : (members[0]).Commutes members[1] := Member.commutes_of fun _ _ _ => rfl
    exact .cons (List.forall_mem_singleton.mpr hcommutes) (List.pairwise_singleton _ _)

/-- Metadata is accepted in any of its texts. -/
theorem IsShown.accepts {m : Metadata} (hshown : IsShown text m) : reader.Accepts text m := by
  obtain ⟨given, htext, hname, hlink⟩ := hshown
  refine htext.accepts areFields ?_
  refine .field hname accepts_nullable_text rfl ?_
  refine .field hlink accepts_nullable_text rfl ?_
  exact .nil _

/-- What the members of metadata are read from is read by them. -/
theorem Reads.isRead {name : String} (hreads : Reads name text) :
    ∃ m ∈ members, m.name = name ∧ m.Reads text := by
  cases hreads with
  | name hvalue =>
    exact (accepts_nullable_text _ _ hvalue).isRead (.head _)
  | selfLink hvalue =>
    exact (accepts_nullable_text _ _ hvalue).isRead (.tail _ (.head _))

/-- Metadata that repeats a member is rejected. -/
theorem IsRepetitive.rejects (hrepeats : IsRepetitive text) : reader.Rejects text :=
  IsSpoiltText.rejects areFields (fun _ _ => Reads.isRead) (fun _ _ => False.elim) hrepeats

/-- Null is no metadata. -/
theorem rejects_null : reader.Rejects ['n', 'u', 'l', 'l'] := by
  refine ⟨⟨'n', _, rfl, rfl, by decide, by decide⟩, fun g rest => ?_⟩
  have hskip : skipGap (g.text ++ (['n', 'u', 'l', 'l'] ++ rest)) =
      'n' :: 'u' :: 'l' :: 'l' :: rest := g.skipGap_cons rfl _
  simp only [reader, recordReader, hskip]
  rfl

end Metadata

namespace Status

variable {text : List Char}

/-- The members of a status are fields. -/
theorem areFields : AreFields members where
  names := by decide
  commute := by
    have hready : ∀ m ∈ members.tail, (members[0]).Commutes m :=
      List.forall_mem_cons.mpr ⟨Member.commutes_of fun _ _ _ => rfl,
        List.forall_mem_singleton.mpr (Member.commutes_of fun _ _ _ => rfl)⟩
    have hstate : (members[1]).Commutes members[2] := Member.commutes_of fun _ _ _ => rfl
    exact .cons hready
      (.cons (List.forall_mem_singleton.mpr hstate) (List.pairwise_singleton _ _))

/-- A status is accepted in any of its texts. -/
theorem IsShown.accepts {s : Status} (hshown : IsShown text s) : reader.Accepts text s := by
  obtain ⟨given, htext, hready, hstate, hserver⟩ := hshown
  refine htext.accepts areFields ?_
  refine .field hready accepts_nullable_count rfl ?_
  refine .field hstate accepts_nullable_text rfl ?_
  refine .field hserver accepts_nullable_text rfl ?_
  exact .nil _

/-- What the members of a status are read from is read by them. -/
theorem Reads.isRead {name : String} (hreads : Reads name text) :
    ∃ m ∈ members, m.name = name ∧ m.Reads text := by
  cases hreads with
  | readyReplicas hvalue =>
    exact (accepts_nullable_count _ _ hvalue).isRead (.head _)
  | state hvalue =>
    exact (accepts_nullable_text _ _ hvalue).isRead (.tail _ (.head _))
  | gameServerName hvalue =>
    exact (accepts_nullable_text _ _ hvalue).isRead (.tail _ (.tail _ (.head _)))

/-- A status that repeats a member is rejected. -/
theorem IsRepetitive.rejects (hrepeats : IsRepetitive text) : reader.Rejects text :=
  IsSpoiltText.rejects areFields (fun _ _ => Reads.isRead) (fun _ _ => False.elim) hrepeats

/-- A status that may be null is accepted. -/
theorem accepts_nullable (text : List Char) (s : Option Status)
    (hvalue : IsNullable IsShown text s) : reader.nullable.Accepts text s := by
  refine Reader.accepts_nullable (fun _ _ => IsShown.accepts) (fun _ _ hshown => ?_) hvalue
  obtain ⟨given, htext, _⟩ := hshown
  exact htext.head?_ne

end Status

namespace Snapshot

variable {text : List Char}

/-- The members of a snapshot are fields. -/
theorem areFields : AreFields members where
  names := by decide
  commute := by
    have hcommutes : (members[0]).Commutes members[1] := Member.commutes_of fun _ _ _ => rfl
    exact .cons (List.forall_mem_singleton.mpr hcommutes) (List.pairwise_singleton _ _)

/-- A snapshot is accepted in any of its texts. -/
theorem IsShown.accepts {s : Snapshot} (hshown : IsShown text s) : reader.Accepts text s := by
  obtain ⟨given, htext, hmetadata, hstatus⟩ := hshown
  refine htext.accepts areFields ?_
  refine .field hmetadata (fun _ _ => Metadata.IsShown.accepts) rfl ?_
  refine .field hstatus Status.accepts_nullable rfl ?_
  exact .nil _

/-- What the members of a snapshot are read from is read by them. -/
theorem Reads.isRead {name : String} (hreads : Reads name text) :
    ∃ m ∈ members, m.name = name ∧ m.Reads text := by
  cases hreads with
  | metadata hshown => exact hshown.accepts.isRead (.head _)
  | status hvalue =>
    exact (Status.accepts_nullable _ _ hvalue).isRead (.tail _ (.head _))

/-- What spoils a member of a snapshot is rejected by it. -/
theorem Spoils.isRejected {name : String} (hspoils : Spoils name text) :
    ∃ m ∈ members, m.name = name ∧ m.reader.Rejects text := by
  cases hspoils with
  | null => exact Metadata.rejects_null.isRejected (.head _)
  | metadata hrepeats => exact hrepeats.rejects.isRejected (.head _)
  | status hrepeats =>
    have hrejects := hrepeats.rejects.nullable (IsSpoiltText.head?_ne hrepeats)
    exact hrejects.isRejected (.tail _ (.head _))

/-- A spoilt snapshot is rejected. -/
theorem IsSpoilt.rejects (hspoilt : IsSpoilt text) : reader.Rejects text :=
  IsSpoiltText.rejects areFields (fun _ _ => Reads.isRead) (fun _ _ => Spoils.isRejected) hspoilt

/-- Whether a whole text presents a snapshot, blanks standing around it. -/
def Presents (text : String) (s : Snapshot) : Prop :=
  ∃ (before after : Gap) (shown : List Char),
    text.toList = before.text ++ (shown ++ after.text) ∧ IsShown shown s

/-- Whether a whole text starts with a spoilt snapshot, blanks standing before it. -/
def IsFaulty (text : String) : Prop :=
  ∃ (before : Gap) (shown rest : List Char),
    text.toList = before.text ++ (shown ++ rest) ∧ IsSpoilt shown

/-- A text that presents a snapshot is read as that snapshot. -/
theorem Presents.parse_eq {text : String} {s : Snapshot} (hpresents : Presents text s) :
    parse text = .ok s := by
  obtain ⟨before, after, shown, htext, hshown⟩ := hpresents
  have hgap := after.skipGap_append []
  have hbounds := after.bounds .nothing
  rw [List.append_nil] at hgap hbounds
  simp only [parse, Reader.whole, htext, hshown.accepts.run before after.text hbounds, hgap]
  rfl

/-- A text that starts with a spoilt snapshot has the wrong shape. -/
theorem IsFaulty.parse_eq {text : String} (hfaulty : IsFaulty text) :
    parse text = .error .mismatched := by
  obtain ⟨before, shown, rest, htext, hspoilt⟩ := hfaulty
  simp only [parse, Reader.whole, htext, hspoilt.rejects.run before rest]

/-- **Parsing depends on the known members only.** Every text that presents a snapshot is read as
that snapshot: its members may stand in any order among any others, those that are absent may be
null or left out, metadata that says nothing may be left out, each record may be an array of its
first members, and blanks may stand between any tokens. A text that repeats a known member of one
object, or gives null for metadata, has the wrong shape. -/
theorem parse_depends_on_members :
    (∀ text s, Presents text s → parse text = .ok s) ∧
      ∀ text, IsFaulty text → parse text = .error .mismatched :=
  ⟨fun _ _ => Presents.parse_eq, fun _ => IsFaulty.parse_eq⟩

/-- A text with an unknown member in front, inside which a known name stands, then a status as an
array that ends early, and metadata last. -/
def shuffledText : String :=
  " \x7b\"kind\":\x7b\"status\":null\x7d,\"status\":[2,null]," ++
    "\"metadata\":\x7b\"name\":\"a\"\x7d\x7d"

/-- A text whose status repeats a member that it does not give. -/
def repetitiveText : String := "\x7b\"status\":\x7b\"state\":null,\"state\":null\x7d\x7d"

/-- The shuffled text presents its snapshot. -/
theorem presents_shuffledText :
    Presents shuffledText ⟨⟨some "a", none⟩, some ⟨some 2, none, none⟩⟩ := by
  let kind := NamedEntry.written ("kind", .object [("status", .null)])
  let items : List Item := [⟨.none, ['2'], .none⟩, ⟨.none, ['n', 'u', 'l', 'l'], .none⟩]
  let status := NamedEntry.bare "status" (arrayText .none items)
  let metadata := NamedEntry.bare "metadata"
    (objectText .none (unnamed [.bare "name" ['"', 'a', '"']]))
  refine ⟨⟨[' '], List.forall_mem_singleton.mpr rfl⟩, .none,
    objectText .none (unnamed [kind, status, metadata]), by decide, _, .object .none ?_ ?_, ?_, ?_⟩
  · intro e he hunknown
    simp only [List.mem_cons, List.not_mem_nil, or_false] at he
    obtain rfl | rfl | rfl := he
    · exact isJson_text _
    · exact absurd (by decide) hunknown
    · exact absurd (by decide) hunknown
  · unfold AreOnce
    decide
  · refine ⟨_, .object .none ?_ ?_, ?_, ?_⟩
    · intro e he hunknown
      obtain rfl := List.mem_singleton.mp he
      exact absurd (by decide) hunknown
    · exact List.pairwise_singleton _ _
    · exact .value ⟨['a'], rfl, .plain ⟨by decide, by decide, by decide⟩ .nil⟩
    · rfl
  · refine .value ⟨_, .array .none (by decide), ?_, ?_, ?_⟩
    · exact .value rfl
    · exact .null
    · rfl

/-- The repetitive text is faulty. -/
theorem isFaulty_repetitiveText : IsFaulty repetitiveText := by
  let state := NamedEntry.written ("state", .null)
  let status := NamedEntry.bare "status" (objectText .none (unnamed [state, state]))
  have hrepeats : Status.IsRepetitive status.value := by
    refine .object .none [state] state [] ?_ (List.pairwise_singleton _ _) ?_
      (by decide) (.inl ⟨state, List.mem_cons_self, rfl⟩)
    · intro e he hunknown
      obtain rfl := List.mem_singleton.mp he
      exact absurd (by decide) hunknown
    · intro e he _
      obtain rfl := List.mem_singleton.mp he
      exact .state .null
  refine ⟨.none, objectText .none (unnamed [status]), [], by decide, ?_⟩
  exact .object .none [] status [] nofun .nil nofun (by decide) (.inr (.status hrepeats))

/-- The shuffled text is read as its snapshot, and the repetitive one is not read. -/
theorem parse_shuffled_and_repetitive :
    parse shuffledText = .ok ⟨⟨some "a", none⟩, some ⟨some 2, none, none⟩⟩ ∧
      parse repetitiveText = .error .mismatched :=
  ⟨parse_depends_on_members.1 _ _ presents_shuffledText,
    parse_depends_on_members.2 _ isFaulty_repetitiveText⟩

end Snapshot

end FleetTrial
