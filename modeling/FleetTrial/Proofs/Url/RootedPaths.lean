import FleetTrial.Proofs.Url.References
import Mathlib.Data.List.TakeWhile

/-!
# Paths from the root

A reference that begins with one slash is a path from the root of its base's server: it replaces the
whole path of the base, whatever that was. The segments of such a path that are plain, without
characters that are encoded, cut off or take part in its structure, stand in the URL just as they
are written.
-/

namespace FleetTrial.Url

variable {base : Address} {segment text : List Char} {more before segments : List (List Char)}

/-- Whether a character stands in a path as it is. -/
def isPlainInPath (c : Char) : Bool := !encodesInPath c && !isSlash true c

/-- Whether a text stands in a path as it is, as one segment. -/
structure IsPlainSegment (segment : List Char) : Prop where
  chars : ∀ c ∈ segment, isPlainInPath c = true
  single : isSingleDot segment = false
  double : isDoubleDot segment = false

instance (segment : List Char) : Decidable (IsPlainSegment segment) :=
  decidable_of_iff (segment.all isPlainInPath = true ∧ isSingleDot segment = false ∧
      isDoubleDot segment = false)
    ⟨fun ⟨hchars, hsingle, hdouble⟩ => ⟨List.all_eq_true.mp hchars, hsingle, hdouble⟩,
      fun ⟨hchars, hsingle, hdouble⟩ => ⟨List.all_eq_true.mpr hchars, hsingle, hdouble⟩⟩

/-- A character stands as it is if it is neither encoded nor a slash. -/
theorem isPlainInPath_iff {c : Char} :
    isPlainInPath c = true ↔ encodesInPath c = false ∧ isSlash true c = false := by
  simp only [isPlainInPath, Bool.and_eq_true, Bool.not_eq_true']

/-- Whether a character is neither a control nor a space. -/
def IsVisible (c : Char) : Prop := 0x20 < c.toNat

instance (c : Char) : Decidable (IsVisible c) := inferInstanceAs (Decidable (_ < _))

/-- A plain character is visible. -/
theorem isVisible_of_isPlainInPath {c : Char} (hplain : isPlainInPath c = true) : IsVisible c := by
  unfold IsVisible
  have hcode := (isPlainInPath_iff.mp hplain).1
  simp only [encodesInPath, encodesInFragment, isControlOrWide, Bool.or_eq_false_iff,
    decide_eq_false_iff_not] at hcode
  have hspace : c.toNat ≠ 0x20 := by
    intro hspace
    obtain rfl : c = ' ' := Char.toNat_inj.mp hspace
    cases hplain
  omega

/-- A plain character does not end a path. -/
theorem endsPath_of_isPlainInPath {c : Char} (hplain : isPlainInPath c = true) :
    endsPath c = false := by
  rw [endsPath, Bool.or_eq_false_iff, beq_eq_false_iff_ne, beq_eq_false_iff_ne]
  constructor <;> rintro rfl <;> cases hplain

/-- Visible characters in front of a text are left there. -/
theorem clean_append {front : List Char} (hfront : front ≠ []) (hvisible : ∀ c ∈ front, IsVisible c)
    (text : List Char) :
    ∃ rest, clean (front ++ text) = front ++ rest ∧ (text = [] → rest = []) := by
  have houter : ∀ c ∈ front, ¬ decide (c.toNat ≤ 0x20) = true := fun c hc => by
    rw [decide_eq_true_iff, Nat.not_le]
    exact hvisible c hc
  have hinner : front.filter (fun c => c != '\t' && c != '\n' && c != '\r') = front := by
    rw [List.filter_eq_self]
    intro c hc
    simp only [Bool.and_eq_true, bne_iff_ne]
    refine ⟨⟨?_, ?_⟩, ?_⟩ <;> rintro rfl <;> exact absurd (hvisible _ hc) (by decide)
  have hhead : (front ++ text).dropWhile (fun c => decide (c.toNat ≤ 0x20)) = front ++ text := by
    cases front with
    | nil => exact absurd rfl hfront
    | cons c front => exact List.dropWhile_cons_of_neg (houter c List.mem_cons_self)
  have hlast : front.reverse.dropWhile (fun c => decide (c.toNat ≤ 0x20)) = front.reverse :=
    List.dropWhile_eq_self_iff.mpr fun hpos =>
      houter _ (List.mem_reverse.mp (List.getElem_mem hpos))
  refine ⟨(text.reverse.dropWhile fun c => decide (c.toNat ≤ 0x20)).reverse.filter
    fun c => c != '\t' && c != '\n' && c != '\r', ?_, by rintro rfl; rfl⟩
  simp only [clean, hhead, List.reverse_append, List.dropWhile_append, hlast]
  split
  · rename_i hempty
    simp only [List.isEmpty_iff.mp hempty, List.reverse_reverse, hinner, List.reverse_nil,
      List.filter_nil, List.append_nil]
  · simp only [List.reverse_append, List.reverse_reverse, List.filter_append, hinner]

/-- A reference that begins with one slash names no authority of its own, and replaces the path of
its base. -/
theorem join_of_rooted {reference : String} {c : Char} (hweb : isWeb base.scheme = true)
    (hsegments : base.HasSegments) (hclean : clean reference.toList = '/' :: c :: text)
    (hc : isSlash true c = false) :
    ownAuthority? base.scheme reference = none ∧
      base.join reference = .ok (base.withPath [] (c :: text)) := by
  obtain ⟨parts, hparts⟩ := hsegments
  have hnone : splitScheme ('/' :: c :: text) = none := rfl
  constructor
  · simp only [ownAuthority?, hclean, hnone, startsTwoSlashes, hc, Bool.and_false,
      Bool.false_eq_true, if_false]
  · simp only [Address.join, readClean, hclean, hnone, hparts]
    simp only [resolve, isSpecial_of_isWeb hweb]
    refine (if_pos (by decide)).trans ?_
    simp only [hc, Bool.false_eq_true, if_false]

/-- Plain characters are not encoded. -/
theorem percentEncode_of_plain (hplain : ∀ c ∈ text, isPlainInPath c = true) :
    percentEncode encodesInPath text = text := by
  unfold percentEncode
  induction text with
  | nil => rfl
  | cons c text ih =>
    have hc := (isPlainInPath_iff.mp (hplain c List.mem_cons_self)).1
    rw [List.flatMap_cons, ih fun d hd => hplain d (List.mem_cons_of_mem c hd), hc]
    rfl

/-- A path of plain segments is cut into just these. -/
theorem pathSegments_of_plain (hsegment : IsPlainSegment segment)
    (hmore : ∀ part ∈ more, IsPlainSegment part) :
    pathSegments true (segment ++ Path.text (.segments more)) = segment :: more := by
  unfold pathSegments
  induction more generalizing segment with
  | nil =>
    have hslash : ∀ c ∈ segment, isSlash true c = false := fun c hc =>
      (isPlainInPath_iff.mp (hsegment.chars c hc)).2
    rw [Path.text, List.flatMap_nil, List.append_nil, List.splitOnP_eq_singleton hslash,
      List.map_singleton, percentEncode_of_plain hsegment.chars]
  | cons part more ih =>
    have hslash : ∀ c ∈ segment, isSlash true c = false := fun c hc =>
      (isPlainInPath_iff.mp (hsegment.chars c hc)).2
    have hrest := ih (hmore part List.mem_cons_self) fun other hother =>
      hmore other (List.mem_cons_of_mem part hother)
    have htext : segment ++ Path.text (.segments (part :: more)) =
        segment ++ '/' :: (part ++ Path.text (.segments more)) := rfl
    rw [htext, List.splitOnP_append_cons_of_forall_mem hslash '/' rfl, List.map_cons,
      percentEncode_of_plain hsegment.chars, hrest]

/-- Plain segments are appended one by one. -/
theorem pushSegments_of_plain (hsegments : ∀ part ∈ segments, IsPlainSegment part) :
    pushSegments before segments = before ++ segments := by
  induction segments generalizing before with
  | nil => exact (List.append_nil before).symm
  | cons part more ih =>
    obtain ⟨-, hsingle, hdouble⟩ := hsegments part List.mem_cons_self
    have hpush (last : Bool) : pushSegment before part last = before ++ [part] := by
      simp only [pushSegment, hsingle, hdouble, Bool.false_eq_true, if_false]
    cases more with
    | nil => exact hpush true
    | cons next more =>
      have hrest : pushSegments (before ++ [part]) (next :: more) =
          before ++ [part] ++ next :: more :=
        ih fun other hother => hsegments other (List.mem_cons_of_mem part hother)
      rw [pushSegments, hpush, hrest, List.append_assoc, List.singleton_append]
      nofun

/-- A path of plain segments holds no character that ends it. -/
theorem endsPath_of_plain (hsegments : ∀ part ∈ segments, IsPlainSegment part) :
    ∀ c ∈ Path.text (.segments segments), IsVisible c ∧ endsPath c = false := by
  intro c hc
  obtain ⟨part, hpart, hc⟩ := List.mem_flatMap.mp hc
  rcases List.mem_cons.mp hc with rfl | hc
  · exact ⟨by decide, by decide⟩
  · have hplain := (hsegments part hpart).chars c hc
    exact ⟨isVisible_of_isPlainInPath hplain, endsPath_of_isPlainInPath hplain⟩

/-- A path of plain segments is the path of the URL that it is read into. -/
theorem withPath_of_plain (hweb : isWeb base.scheme = true)
    (hsegments : ∀ part ∈ segment :: more, IsPlainSegment part) :
    base.withPath [] (segment ++ Path.text (.segments more)) =
      { base.root with path := .segments (segment :: more) } := by
  obtain ⟨hsegment, hmore⟩ := List.forall_mem_cons.mp hsegments
  have hends : ∀ c ∈ segment ++ Path.text (.segments more), (!endsPath c) = true := fun c hc => by
    rw [(endsPath_of_plain hsegments c (List.mem_cons_of_mem '/' hc)).2]
    rfl
  have htake := List.takeWhile_eq_self_iff.mpr hends
  simp only [Address.withPath, htake, List.drop_length, isSpecial_of_isWeb hweb,
    pathSegments_of_plain hsegment hmore, pushSegments_of_plain hsegments]
  rfl

/-- A path of plain segments is requested as it is. -/
theorem join_of_plain {reference : String} (hweb : isWeb base.scheme = true)
    (hsegments : base.HasSegments) (hplain : ∀ part ∈ segment :: more, IsPlainSegment part)
    (hsegment : segment ≠ [])
    (htext : reference.toList = Path.text (.segments (segment :: more))) :
    base.join reference = .ok { base.root with path := .segments (segment :: more) } := by
  have hvisible : ∀ c ∈ reference.toList, IsVisible c := fun c hc =>
    (endsPath_of_plain hplain c (htext ▸ hc)).1
  obtain ⟨rest, hclean, hrest⟩ := clean_append (by rw [htext]; nofun) hvisible []
  rw [hrest rfl, List.append_nil] at hclean
  obtain ⟨c, segment', rfl⟩ := List.exists_cons_of_ne_nil hsegment
  have hc := (isPlainInPath_iff.mp ((hplain _ List.mem_cons_self).chars c List.mem_cons_self)).2
  rw [(join_of_rooted hweb hsegments (hclean.trans htext) hc).2]
  exact congrArg _ (withPath_of_plain hweb hplain)

/-- The target of a URL whose path is a text and that has no query is that text. -/
theorem target_of_path {reference : String} {path : Path} (htext : reference.toList = path.text) :
    Address.target { base.root with path } = reference := by
  simp only [Address.target, Address.root, Option.map_none, Option.getD_none, List.append_nil,
    ← htext, String.ofList_toList]

end FleetTrial.Url
