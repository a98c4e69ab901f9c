import FleetTrial.Proofs.Http.Operations
import FleetTrial.Proofs.Http.RequestTargets

/-!
# Custom headers on their way into requests

A custom header is looked at three times. The check of the settings asks for a colon in it, the
client cuts it at its first colon, and a request takes the two parts only if they make a header
field. The check asks for the least of the three. So there are settings that pass it and make no
request: every request fails before it is sent, and an attempt with its first one. Headers that are
fields are nothing that a request can fail for, and every dialogue goes as it goes without them.
-/

namespace FleetTrial

namespace Settings

variable {s : Settings} {headers : List String}

/-- The same settings without custom headers. -/
def withoutHeaders (s : Settings) : Settings := { s with target.headers := [] }

/-- Whether a header is the first one without a colon. -/
def IsFirstColonless (headers : List String) (header : String) : Prop :=
  ∃ before after, headers = before ++ header :: after ∧
    (∀ other ∈ before, ':' ∈ other.toList) ∧ ':' ∉ header.toList

/-- What is found among headers is the first one without a colon. -/
theorem find?_eq_some_iff_isFirstColonless {header : String} :
    headers.find? (fun header => !header.toList.contains ':') = some header ↔
      IsFirstColonless headers header := by
  simp only [List.find?_eq_some_iff_append, IsFirstColonless, Bool.not_eq_true', Bool.not_not,
    List.contains_eq_mem, decide_eq_true_eq, decide_eq_false_iff_not]
  constructor
  · rintro ⟨hcolon, before, after, rfl, hbefore⟩
    exact ⟨before, after, rfl, hbefore, hcolon⟩
  · rintro ⟨before, after, rfl, hbefore, hcolon⟩
    exact ⟨hcolon, before, after, rfl, hbefore⟩

/-- Headers fail their check exactly for the first one without a colon. -/
theorem checkHeaders_eq_error_iff {fault : SettingsFault} :
    checkHeaders headers = .error fault ↔
      ∃ header, fault = .header header ∧ IsFirstColonless headers header := by
  simp only [← find?_eq_some_iff_isFirstColonless]
  unfold checkHeaders
  cases headers.find? fun header => !header.toList.contains ':' with
  | none => exact iff_of_false nofun fun ⟨_, _, hfound⟩ => nomatch hfound
  | some found =>
    constructor
    · intro hfault
      exact ⟨found, (Except.error.inj hfault).symm, rfl⟩
    · rintro ⟨header, rfl, hfound⟩
      rw [Option.some.inj hfound]

/-- The headers are checked when all else has been. -/
theorem check_eq_bind (s : Settings) :
    s.check = s.withoutHeaders.check >>= fun _ => checkHeaders s.target.headers := by
  have hnone : checkHeaders [] = pure () := rfl
  simp only [check, withoutHeaders, hnone, bind_assoc, pure_bind]
  rfl

/-- Settings that pass their check without headers pass or fail it with their headers. -/
theorem check_eq_checkHeaders (hrest : s.withoutHeaders.check = .ok ()) :
    s.check = checkHeaders s.target.headers := by
  rw [check_eq_bind, hrest]
  rfl

/-- Settings pass their check exactly if they do so without headers and every header has a colon. -/
theorem check_eq_ok_iff :
    s.check = .ok () ↔
      s.withoutHeaders.check = .ok () ∧ ∀ header ∈ s.target.headers, ':' ∈ header.toList := by
  rw [← checkHeaders_eq_ok_iff]
  constructor
  · intro hcheck
    rw [check_eq_bind] at hcheck
    obtain ⟨_, hrest, hheaders⟩ := ok_of_bind_eq_ok hcheck
    exact ⟨hrest, hheaders⟩
  · rintro ⟨hrest, hheaders⟩
    rw [check_eq_checkHeaders hrest, hheaders]

end Settings

namespace Http

variable {s : Settings} {c : Client} {request : Request} {pair : String × String}

/-- The same client without custom headers. -/
def Client.withoutHeaders (c : Client) : Client := { c with headers := [] }

/-- The error of a request that cannot be made for its headers. -/
def unbuilt : TrialError := failure "builder error"

/-- The headers of the client are those that the settings ask for. -/
theorem customHeaders_of_ofSettings (hclient : Client.ofSettings s = .ok c) :
    s.customHeaders = .ok c.headers := by
  unfold Client.ofSettings at hclient
  split at hclient
  · cases hclient
  · split at hclient
    · cases hclient
    · rename_i hheaders
      cases hclient
      exact hheaders

/-- A request with a header that is no field fails for its URL, or else for that header. -/
theorem Client.prepare_of_not_isField (hpair : pair ∈ c.headers) (hfield : isField pair = false)
    (request : Request) :
    c.prepare request =
      match c.base.join request.path with
      | .error fault => .error (.badUrl fault)
      | .ok _ => .error unbuilt := by
  have hall : c.headers.all isField = false :=
    List.all_eq_false.mpr ⟨pair, hpair, by rw [hfield]; exact Bool.false_ne_true⟩
  simp only [prepare, hall, Bool.not_false, if_true]
  rfl

/-- No request can be made with a header that is no field. -/
theorem Client.not_canMake_of_not_isField (hpair : pair ∈ c.headers)
    (hfield : isField pair = false) (request : Request) : ¬ c.CanMake request := by
  rintro ⟨out, hout⟩
  rw [prepare_of_not_isField hpair hfield] at hout
  split at hout <;> cases hout

/-- A client that sends over HTTP finds the URL of every path that is made from the settings. -/
theorem Client.IsWeb.exists_join (hweb : c.IsWeb) {path : String} (hpath : path ∈ s.ownPaths) :
    ∃ address, c.base.join path = .ok address := by
  obtain ⟨text, hclean⟩ := Settings.exists_clean_of_mem_ownPaths hpath
  exact ⟨_, (Url.join_of_rooted (isWeb_of_isHttpScheme hweb.scheme) hweb.segments hclean rfl).2⟩

/-- A request at a path that is made from the settings fails for a header that is no field,
whatever its reply would have been. -/
theorem Client.IsWeb.ask_of_not_isField (hweb : c.IsWeb) (hpath : request.path ∈ s.ownPaths)
    (hpair : pair ∈ c.headers) (hfield : isField pair = false) (r : Response) :
    c.ask request r = .error unbuilt := by
  obtain ⟨address, hjoin⟩ := hweb.exists_join hpath
  simp only [ask, prepare_of_not_isField hpair hfield, hjoin]

/-- With headers that are fields a request comes to what it comes to without any. -/
theorem Client.ask_withoutHeaders (hfields : ∀ pair ∈ c.headers, isField pair = true)
    (request : Request) (r : Response) : c.ask request r = c.withoutHeaders.ask request r := by
  have hall : c.headers.all isField = true := List.all_eq_true.mpr hfields
  simp only [ask, prepare, hall, withoutHeaders, List.all_nil, Bool.not_true, Bool.false_eq_true,
    if_false]
  cases c.base.join request.path with
  | error fault => rfl
  | ok address => by_cases hscheme : isHttpScheme address.schemeText = true <;> simp [hscheme]

/-- Two clients to which every request comes to the same have every dialogue go alike. -/
theorem Dialogue.after_congr {α : Type} {c' : Client}
    (hask : ∀ request r, c.ask request r = c'.ask request r) (p : Caller α)
    (reply : Nat → Option Reply) (start : α) (n : Nat) :
    after p ⟨c, reply⟩ start n = after p ⟨c', reply⟩ start n := by
  induction n with
  | zero => rfl
  | succ n ih => simp only [after, ih, step, hask]

/-- Whether a client fails with every request at some paths: it makes none, and an attempt whose
first request is answered at all is over with it, without an event. -/
structure Client.IsMute (c : Client) (s : Settings) : Prop where
  makes_none : ∀ request, ¬ c.CanMake request
  fails : ∀ request r, request.path ∈ s.ownPaths → c.ask request r = .error unbuilt
  attempts : ∀ (reply : Nat → Option Reply) (moment : Nat → Moment), (reply 0).isSome = true →
    ∀ n > 0, Dialogue.after (Attempt.caller s moment) ⟨c, reply⟩ (.sampling, []) n =
      ⟨(.over (.error unbuilt), []), [.fetch s.fleetPath]⟩

/-- A client with a header that is no field fails with every request at the paths that are made from
the settings. -/
theorem Client.IsWeb.isMute (hweb : c.IsWeb) (s : Settings) (hpair : pair ∈ c.headers)
    (hfield : isField pair = false) : c.IsMute s where
  makes_none := not_canMake_of_not_isField hpair hfield
  fails request r hpath := hweb.ask_of_not_isField hpath hpair hfield r
  attempts reply moment hreply n hn := by
    obtain ⟨r, hr⟩ := Option.isSome_iff_exists.mp hreply
    have hask : c.ask (.fetch s.fleetPath) r.response = .error unbuilt :=
      hweb.ask_of_not_isField s.fleetPath_mem_ownPaths hpair hfield _
    have hnext : Dialogue.after (Attempt.caller s moment) ⟨c, reply⟩ (.sampling, []) 1 =
        ⟨(.over (.error unbuilt), []), [.fetch s.fleetPath]⟩ := by
      rw [Dialogue.after, Dialogue.step_of_reply rfl hr, hask]
      rfl
    rw [Dialogue.after_of_over hn (by rw [hnext]; rfl), hnext]

/-- **A colon is all that a header needs to pass.** Settings pass their check exactly if they do so
without custom headers and every header has a colon; if only a header is wrong with them, their
fault is the first one without a colon. With settings that pass there is a client whose headers are
the two sides of these colons. If all of these are header fields, every dialogue over the client
goes as it goes without them, so no request fails for a header. If one of them is not, no request
can be made at all, and every attempt fails with its first one. -/
theorem headers_pass_with_colon (s : Settings) :
    (s.check = .ok () ↔
      s.withoutHeaders.check = .ok () ∧ ∀ header ∈ s.target.headers, ':' ∈ header.toList) ∧
    (s.withoutHeaders.check = .ok () → ∀ fault, s.check = .error fault ↔
      ∃ header, fault = .header header ∧ Settings.IsFirstColonless s.target.headers header) ∧
    (s.check = .ok () → ∃ c, Client.ofSettings s = .ok c ∧ s.customHeaders = .ok c.headers ∧
      List.Forall₂ IsWrittenAs s.target.headers c.headers ∧
      ((∀ pair ∈ c.headers, isField pair = true) →
        ∀ (α : Type) (p : Caller α) (reply : Nat → Option Reply) (start : α) (n : Nat),
          Dialogue.after p ⟨c, reply⟩ start n =
            Dialogue.after p ⟨c.withoutHeaders, reply⟩ start n) ∧
      ((∃ pair ∈ c.headers, isField pair = false) → c.IsMute s)) := by
  refine ⟨Settings.check_eq_ok_iff, fun hrest fault => ?_, fun hcheck => ?_⟩
  · rw [Settings.check_eq_checkHeaders hrest]
    exact Settings.checkHeaders_eq_error_iff
  · obtain ⟨c, hclient, hweb⟩ := exists_client_of_check hcheck
    have hheaders := customHeaders_of_ofSettings hclient
    obtain ⟨pairs, hsplit, hwritten⟩ := exists_splitHeaders (Settings.parts_of_check hcheck).headers
    obtain rfl := Except.ok.inj (hsplit.symm.trans hheaders)
    refine ⟨c, hclient, hheaders, hwritten, fun hfields α p reply start n => ?_, ?_⟩
    · exact Dialogue.after_congr (Client.ask_withoutHeaders hfields) p reply start n
    · rintro ⟨pair, hpair, hfield⟩
      exact hweb.isMute s hpair hfield

/-- The settings of a small trial with a header that has a value but no name. -/
def withNamelessHeader : Settings :=
  { Settings.small 1 1 with target.headers := [": t0ken"] }

/-- A header without a name passes the check of the settings, makes a pair that is no header field,
and leaves the client without a request that it can make. -/
theorem nameless_header_passes :
    withNamelessHeader.check = .ok () ∧
    withNamelessHeader.customHeaders = .ok [("", "t0ken")] ∧
    isFieldName "" = false ∧
    ∃ c, Client.ofSettings withNamelessHeader = .ok c ∧ c.headers = [("", "t0ken")] ∧
      c.IsMute withNamelessHeader := by
  have hcheck : withNamelessHeader.check = .ok () := by with_unfolding_all rfl
  have hpairs : withNamelessHeader.customHeaders = .ok [("", "t0ken")] := by with_unfolding_all rfl
  obtain ⟨c, hclient, hweb⟩ := exists_client_of_check hcheck
  have hheaders := Except.ok.inj ((customHeaders_of_ofSettings hclient).symm.trans hpairs)
  have hpair : ("", "t0ken") ∈ c.headers := by
    rw [hheaders]
    exact List.mem_cons_self
  exact ⟨hcheck, hpairs, rfl, c, hclient, hheaders, hweb.isMute _ hpair rfl⟩

end Http

end FleetTrial
