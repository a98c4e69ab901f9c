import FleetTrial.Proofs.Resource.Presentation

/-!
# Snapshots and their text

The text of a snapshot tells all of it: read again it gives the same snapshot, members that are
absent staying so and an empty status staying apart from none. So the text of what was read from
any other text is a normal form of that text, which says the same and is written in one way only.
-/

namespace FleetTrial

open Json

/-- The text of metadata presents it. -/
theorem Metadata.isShown_toJson (m : Metadata) : IsShown m.toJson.text m := by
  refine ⟨_, isRecordText_object (by decide) ?_, ?_, ?_⟩
  · rw [List.map_append]
    exact (sublist_optional _ _ _).append (sublist_optional _ _ _)
  · refine isGiven_optional m.name isText_string ?_
    rw [← List.append_nil (m.selfLink.map fun link => ("selfLink", Json.string link)).toList]
    exact lookup_optional_of_ne (by decide)
  · rw [lookup_optional_of_ne (by decide)]
    rw [← List.append_nil (m.selfLink.map fun link => ("selfLink", Json.string link)).toList]
    exact isGiven_optional m.selfLink isText_string rfl

/-- The text of a status presents it. -/
theorem Status.isShown_toJson (s : Status) : IsShown s.toJson.text s := by
  have hlast := List.append_nil
    (s.gameServerName.map fun name => ("gameServerName", Json.string name)).toList
  unfold toJson
  rw [List.append_assoc, ← hlast]
  refine ⟨_, isRecordText_object (by decide) ?_, ?_, ?_, ?_⟩
  · rw [hlast, List.map_append, List.map_append]
    exact (sublist_optional _ _ _).append
      ((sublist_optional _ _ _).append (sublist_optional _ _ _))
  · refine isGiven_optional s.readyReplicas isCount_number ?_
    rw [lookup_optional_of_ne (by decide)]
    exact lookup_optional_of_ne (by decide)
  · rw [lookup_optional_of_ne (by decide)]
    exact isGiven_optional s.state isText_string (lookup_optional_of_ne (by decide))
  · rw [lookup_optional_of_ne (by decide), lookup_optional_of_ne (by decide)]
    exact isGiven_optional s.gameServerName isText_string rfl

namespace Snapshot

/-- The text of a snapshot presents it. -/
theorem isShown_toJson (s : Snapshot) : IsShown s.toJson.text s := by
  have hlast := List.append_nil (s.status.map fun status => ("status", status.toJson)).toList
  unfold toJson
  rw [← hlast]
  refine ⟨_, isRecordText_object (by decide) ?_, ?_, ?_⟩
  · rw [hlast]
    exact (sublist_optional _ _ _).cons_cons _
  · exact s.metadata.isShown_toJson
  · exact isGiven_optional s.status Status.isShown_toJson rfl

/-- The text of a snapshot is read as that snapshot. -/
theorem parse_text (s : Snapshot) : parse s.text = .ok s := by
  refine Presents.parse_eq ⟨.none, .none, s.toJson.text, ?_, s.isShown_toJson⟩
  rw [text, Json.render, String.toList_ofList]
  exact (List.append_nil _).symm

/-- The text of what was read from a text. -/
def rewritten (text : String) : Except Json.Fault String := (parse text).map Snapshot.text

/-- Reading and writing undo each other. Every snapshot is read back from its text. What is
rewritten of a text that can be read is read as the same snapshot, so with the same link, count and
state, and with a status exactly if there was one; and it is not changed by being rewritten
again. -/
theorem text_round_trip :
    (∀ s : Snapshot, parse s.text = .ok s) ∧
    ∀ text s, parse text = .ok s →
      ∃ normal, rewritten text = .ok normal ∧ parse normal = .ok s ∧
        rewritten normal = .ok normal := by
  refine ⟨parse_text, fun text s hparse => ⟨s.text, ?_, parse_text s, ?_⟩⟩
  · rw [rewritten, hparse]
    rfl
  · rw [rewritten, parse_text]
    rfl

/-- A text with an empty status in front of an escaped link. -/
def escapedText : String :=
  "\x7b\"status\":\x7b\x7d, \"metadata\":\x7b\"selfLink\":\"\\u002fa\"\x7d\x7d"

/-- The text with an escaped link is rewritten, and then it stays as it is. -/
theorem text_round_trip_of_escaped_link :
    ∃ normal, rewritten escapedText = .ok normal ∧
      parse normal = .ok ⟨⟨none, some "/a"⟩, some .empty⟩ ∧ rewritten normal = .ok normal :=
  text_round_trip.2 _ _ (by with_unfolding_all rfl)

end Snapshot

end FleetTrial
