import FleetTrial.Proofs.Result
import FleetTrial.Url.Address

/-!
# References

A reference against a URL of the web either names an authority of its own, in a URL of a web scheme
or behind two slashes, or it stays on the server of its base. The forms of a reference are told
apart by its scheme and by the slashes in front, before anything else of it is looked at. So a text
that somebody else has chosen decides by these alone which server a request goes to.
-/

namespace FleetTrial.Url

variable {base a : Address} {parts : List (List Char)} {text scheme rest : List Char}

namespace Address

/-- The URL of the root of the server that a URL is on. -/
def root (a : Address) : Address :=
  { a with path := .segments [[]], query := none, fragment := none }

/-- Whether the path of a URL is made of segments. -/
def HasSegments (a : Address) : Prop := ∃ parts, a.path = .segments parts

/-- A path is put in place of that of a base, of which nothing but the server is left. -/
theorem withPath_congr {base' : Address} (hroot : base'.root = base.root)
    (before : List (List Char)) (text : List Char) :
    base'.withPath before text = base.withPath before text := by
  obtain ⟨scheme, userInfo, host, port, path, query, fragment⟩ := base
  obtain ⟨scheme', userInfo', host', port', path', query', fragment'⟩ := base'
  cases hroot
  rfl

/-- A path from the root stays on the server of its base. -/
theorem withAbsolutePath_spec (base : Address) (text : List Char) :
    (base.withAbsolutePath text).root = base.root ∧ (base.withAbsolutePath text).HasSegments := by
  unfold withAbsolutePath
  dsimp only
  split
  · split
    · exact ⟨rfl, _, rfl⟩
    · split
      · exact ⟨rfl, _, rfl⟩
      · exact ⟨rfl, _, rfl⟩
  · exact ⟨rfl, _, rfl⟩

end Address

/-- A URL behind its scheme and slashes is one of that scheme, and its path is made of segments. -/
theorem readAuthority_spec (h : readAuthority scheme text = .ok a) :
    a.scheme = scheme ∧ a.HasSegments := by
  unfold readAuthority at h
  dsimp only at h
  split at h
  · cases h
  · split at h <;>
    · obtain ⟨host, -, hport⟩ := ok_of_bind_eq_ok h
      split at hport <;>
      · obtain ⟨⟨port, rest⟩, -, hpath⟩ := ok_of_bind_eq_ok hport
        cases hpath
        obtain ⟨hroot, hsegments⟩ := Address.withAbsolutePath_spec _ rest
        exact ⟨congrArg Address.scheme hroot, hsegments⟩

/-- A URL of another scheme has that scheme. -/
theorem readPlain_scheme (h : readPlain scheme text = .ok a) : a.scheme = scheme := by
  unfold readPlain at h
  split at h
  · exact (readAuthority_spec h).1
  · cases h
    rfl
  · cases h
    rfl

/-- A URL of a file has the scheme of files. -/
theorem readFile_scheme (h : readFile text = .ok a) : a.scheme = fileScheme := by
  unfold readFile at h
  split at h
  · split at h
    · dsimp only at h
      split at h
      · cases h
        exact congrArg Address.scheme (Address.withAbsolutePath_spec _ _).1
      · split at h
        · cases h
          rfl
        · rename_i rest _ _ _
          cases hhost : Host.read (rest.takeWhile fun c => !endsAuthority true c) with
          | error fault =>
            rw [hhost] at h
            cases h
          | ok host =>
            rw [hhost] at h
            cases h
            exact congrArg Address.scheme (Address.withAbsolutePath_spec _ _).1
    · cases h
      exact congrArg Address.scheme (Address.withAbsolutePath_spec _ _).1
  · cases h
    exact congrArg Address.scheme (Address.withAbsolutePath_spec _ _).1

/-- The path of a URL of the web is made of segments. -/
theorem hasSegments_of_parse {url : String} (h : Address.parse url = .ok a)
    (hweb : isWeb a.scheme = true) : a.HasSegments := by
  unfold Address.parse readClean at h
  dsimp only at h
  split at h
  · split at h
    · exact (readAuthority_spec h).2
    · rename_i hplain
      split at h
      · rw [readFile_scheme h] at hweb
        cases hweb
      · rw [readPlain_scheme h] at hweb
        exact absurd hweb hplain
  · cases h

/-- Whether a text begins with two slashes of either kind. -/
def startsTwoSlashes : List Char → Bool
  | c :: d :: _ => isSlash true c && isSlash true d
  | _ => false

/-- A text begins with two slashes exactly if there are at least two in front of anything else. -/
theorem two_le_length_takeWhile (text : List Char) :
    2 ≤ (text.takeWhile (isSlash true)).length ↔ startsTwoSlashes text = true := by
  cases text with
  | nil => simp [startsTwoSlashes]
  | cons c text =>
    cases text with
    | nil => cases hc : isSlash true c <;> simp [startsTwoSlashes, hc]
    | cons d text =>
      cases hc : isSlash true c <;> cases hd : isSlash true d <;>
        simp [startsTwoSlashes, hc, hd]

/-- On the web, slashes lean either way. -/
theorem isSlash_true_iff {c : Char} : isSlash true c = true ↔ c = '/' ∨ c = '\\' := by
  simp only [isSlash, Bool.true_and, Bool.or_eq_true, beq_iff_eq]

/-- A relative reference with two slashes in front names an authority. -/
theorem resolve_of_slashes (hspecial : isSpecial base.scheme = true)
    (hslashes : startsTwoSlashes text = true) :
    resolve base parts text = readAuthority base.scheme (text.dropWhile (isSlash true)) := by
  match text, hslashes with
  | c :: d :: after, hslashes =>
    obtain ⟨hc, hd⟩ := Bool.and_eq_true_iff.mp hslashes
    have hdrop : (c :: d :: after).dropWhile (isSlash true) = after.dropWhile (isSlash true) := by
      simp only [List.dropWhile_cons, hc, hd, if_true]
    rw [hdrop]
    rcases isSlash_true_iff.mp hc with rfl | rfl
    all_goals
      simp only [resolve, hspecial]
      exact if_pos hd

/-- Any other relative reference stays on the server of its base. -/
theorem resolve_root (hspecial : isSpecial base.scheme = true)
    (hslashes : startsTwoSlashes text = false) (h : resolve base parts text = .ok a) :
    a.root = base.root := by
  unfold resolve at h
  dsimp only at h
  split at h
  · cases h
    rfl
  · cases h
    rfl
  · cases h
    rfl
  · rename_i c rest _ _
    rw [hspecial] at h
    split at h
    · rename_i hc
      split at h
      · rename_i d after
        split at h
        · rename_i hd
          simp [startsTwoSlashes, hc, hd] at hslashes
        · cases h
          rfl
      · cases h
        rfl
    · cases h
      rfl

/-- Web schemes are special. -/
theorem isSpecial_of_isWeb (hweb : isWeb scheme = true) : isSpecial scheme = true := by
  rw [isSpecial, hweb, Bool.true_or]

/-- A scheme in front does not count if it is that of the base and no two slashes follow. -/
theorem near_eq (text own scheme : List Char) :
    (decide ((text.takeWhile (isSlash true)).length < 2) && scheme == own) =
      !(own != scheme || startsTwoSlashes text) := by
  have hslashes : decide ((text.takeWhile (isSlash true)).length < 2) = !startsTwoSlashes text := by
    rw [Bool.eq_iff_iff, decide_eq_true_iff, Bool.not_eq_true', ← Bool.not_eq_true,
      ← two_le_length_takeWhile, Nat.not_le]
  rw [hslashes, Bool.not_or, bne, Bool.not_not, Bool.and_comm, BEq.comm]

/-- The scheme and the text of the authority that a reference names of its own, if it names one: in
a URL of a web scheme of its own, or behind two slashes. -/
def ownAuthority? (scheme : List Char) (reference : String) : Option (List Char × List Char) :=
  let text := clean reference.toList
  match splitScheme text with
  | none => if startsTwoSlashes text then some (scheme, text.dropWhile (isSlash true)) else none
  | some (own, rest) =>
    if isWeb own && (own != scheme || startsTwoSlashes rest) then
      some (own, rest.dropWhile (isSlash true))
    else none

/-- A reference that names an authority leads there, whatever its base. -/
theorem join_of_ownAuthority {reference : String} (hweb : isWeb base.scheme = true)
    (hsegments : base.HasSegments)
    (hown : ownAuthority? base.scheme reference = some (scheme, rest)) :
    base.join reference = readAuthority scheme rest := by
  obtain ⟨parts, hparts⟩ := hsegments
  unfold ownAuthority? at hown
  unfold Address.join readClean
  dsimp only at hown
  split at hown
  · rename_i hnone
    split at hown
    · rename_i hslashes
      cases hown
      simp only [hnone, hparts]
      exact resolve_of_slashes (isSpecial_of_isWeb hweb) hslashes
    · cases hown
  · rename_i own text hsome
    split at hown
    · rename_i hfar
      obtain ⟨hown', hfar⟩ := Bool.and_eq_true_iff.mp hfar
      cases hown
      simp only [hsome, hown', hparts, near_eq, hfar, if_true]
      rfl
    · cases hown

/-- Any other reference that leads to a URL of the web stays on the server of its base. -/
theorem root_of_join {reference : String} (hweb : isWeb base.scheme = true)
    (hsegments : base.HasSegments) (hown : ownAuthority? base.scheme reference = none)
    (hjoin : base.join reference = .ok a) (hscheme : isWeb a.scheme = true) :
    a.root = base.root := by
  obtain ⟨parts, hparts⟩ := hsegments
  unfold ownAuthority? at hown
  unfold Address.join readClean at hjoin
  dsimp only at hown
  split at hown
  · rename_i hnone
    simp only [hnone, hparts] at hjoin
    split at hown
    · cases hown
    · rename_i hslashes
      exact resolve_root (isSpecial_of_isWeb hweb) (eq_false_of_ne_true hslashes) hjoin
  · rename_i own text hsome
    simp only [hsome, hparts, near_eq] at hjoin
    split at hown
    · cases hown
    · rename_i hnear
      split at hjoin
      · rename_i hown'
        rw [hown', Bool.true_and, Bool.not_eq_true] at hnear
        rw [hnear, Bool.not_false, if_pos rfl] at hjoin
        exact resolve_root (isSpecial_of_isWeb hweb) (Bool.or_eq_false_iff.mp hnear).2 hjoin
      · rename_i hplain
        split at hjoin
        · rw [readFile_scheme hjoin] at hscheme
          cases hscheme
        · rw [readPlain_scheme hjoin] at hscheme
          exact absurd hscheme hplain

end FleetTrial.Url
