import FleetTrial.Proofs.Http.Operations
import FleetTrial.Proofs.Http.RequestTargets
import FleetTrial.Proofs.Trial.Setup

/-!
# Where credentials go

The custom headers go with every request, and a request is made at a path that comes from the
settings or at the self-link of an earlier reply. A self-link may name an authority of its own, in a
URL or behind two slashes. Then the request goes to that authority, and the credentials with it. Any
other path stays on the control plane's server.
-/

namespace FleetTrial

open Url

namespace Http

/-- Whether a text is the self-link of the snapshot that a request came to. -/
def IsLinkOf (result : Except TrialError Snapshot) (link : String) : Prop :=
  ∃ s, result = .ok s ∧ s.selfLink? = some link

/-- Whether a path is known when so many requests have been answered: it was so at the start, or it
is the self-link of the snapshot in a reply. -/
def Exchange.Reveals (c : Exchange) (known : String → Prop) (n : Nat) (path : String) : Prop :=
  known path ∨
    ∃ k < n, ∃ r s, c.reply k = some r ∧ Snapshot.parse r.content = .ok s ∧ s.selfLink? = some path

/-- Whether a caller asks at known paths only. What holds of it when some paths are known is
`holds`; a reply may make more paths known, and makes the self-link of its snapshot known. -/
structure Caller.KeepsTo {α : Type} (p : Caller α) (holds : (String → Prop) → α → Prop) : Prop where
  asks : ∀ known a request, holds known a → p.wait a = .reply request → known request.path
  paused : ∀ known k a span, holds known a → p.wait a = .pause span →
    holds known (p.resume k .go a)
  replied : ∀ (known known' : String → Prop) k a request result, holds known a →
    p.wait a = .reply request → (∀ path, known path → known' path) →
    (∀ link, IsLinkOf result link → known' link) → holds known' (p.resume k (.reply result) a)

/-- Whether a caller asks only at paths that it knows from its start or from an earlier reply. -/
def FollowsLinks {α : Type} (p : Caller α) (c : Exchange) (start : α) (known : String → Prop) :
    Prop :=
  ∀ n request, p.wait (Dialogue.after p c start n).state = .reply request →
    c.Reveals known (Dialogue.after p c start n).requests.length request.path

/-- A request that comes to a snapshot with a self-link got that snapshot in its reply. -/
theorem Client.parse_of_isLinkOf {c : Client} {request : Request} {r : Reply} {link : String}
    (hlink : IsLinkOf (c.ask request r.response) link) :
    ∃ s, Snapshot.parse r.content = .ok s ∧ s.selfLink? = some link := by
  obtain ⟨s, hask, hlink⟩ := hlink
  have hmade := canMake_of_ask_eq_ok hask
  by_cases hverb : request.verb = .delete
  · -- A deletion does not look at its reply, and its empty snapshot has no link.
    rw [hmade.ask_eq, hverb, Response.answer, Reply.readDeleted_response] at hask
    split at hask
    · cases hask
      cases hlink
    · cases hask
  · exact ⟨s, (((hmade.tellsApart hverb r).taken s).mp hask).2, hlink⟩

section Reveals

variable {c : Exchange} {known : String → Prop} {n : Nat} {path : String} {r : Reply}

/-- What is known at the start is known before the first reply. -/
theorem Exchange.reveals_zero : c.Reveals known 0 = known := by
  funext path
  simp [Reveals]

/-- A path that is known stays so. -/
theorem Exchange.Reveals.succ (hknown : c.Reveals known n path) : c.Reveals known (n + 1) path := by
  rcases hknown with hknown | ⟨k, hk, hreply⟩
  · exact .inl hknown
  · exact .inr ⟨k, Nat.lt_succ_of_lt hk, hreply⟩

/-- A reply reveals the self-link of its snapshot. -/
theorem Exchange.reveals_link (hreply : c.reply n = some r) {request : Request}
    (hlink : IsLinkOf (c.client.ask request r.response) path) : c.Reveals known (n + 1) path := by
  obtain ⟨s, hparse, hlink⟩ := Client.parse_of_isLinkOf hlink
  exact .inr ⟨n, Nat.lt_succ_self n, r, s, hreply, hparse, hlink⟩

end Reveals

namespace Caller.KeepsTo

variable {α : Type} {p : Caller α} {holds : (String → Prop) → α → Prop} {c : Exchange} {start : α}
  {known : String → Prop}

open Dialogue

/-- What holds of a caller at its start holds after any number of its steps, with the paths that are
known by then. -/
theorem holds_after (hkeeps : p.KeepsTo holds) (hstart : holds known start) (n : Nat) :
    holds (c.Reveals known (after p c start n).requests.length) (after p c start n).state := by
  induction n with
  | zero => exact Exchange.reveals_zero ▸ hstart
  | succ n ih =>
    rw [after, step]
    split
    · rename_i span hwait
      exact hkeeps.paused _ _ _ span ih hwait
    · rename_i request hwait
      split
      · exact ih
      · rename_i r hreply
        rw [List.length_append, List.length_singleton]
        exact hkeeps.replied _ _ _ _ request _ ih hwait (fun _ hknown => hknown.succ)
          fun _ hlink => Exchange.reveals_link hreply hlink
    · exact ih

/-- A caller that keeps to known paths follows links only if they were revealed. -/
theorem followsLinks (hkeeps : p.KeepsTo holds) (hstart : holds known start) :
    FollowsLinks p c start known :=
  fun n request hwait => hkeeps.asks _ _ request (hkeeps.holds_after hstart n) hwait

end Caller.KeepsTo

end Http

open Http

namespace Watch

variable {known : String → Prop} {clock : Readings} {p : Poll}

/-- Whether the link that a watch goes on with is known. -/
def Knows (known : String → Prop) : Watch → Prop
  | .pausing p => ∀ link, p.latest.selfLink? = some link → known link
  | .fetching _ link => known link
  | .over _ => True

/-- A poll goes on to fetch the link of the latest snapshot. -/
theorem knows_fetch (hlatest : ∀ link, p.latest.selfLink? = some link → known link) :
    p.fetch.Knows known := by
  unfold Poll.fetch
  split
  · trivial
  · exact hlatest _ ‹_›

/-- A poll goes on with the link of the latest snapshot. -/
theorem knows_inspect (hlatest : ∀ link, p.latest.selfLink? = some link → known link) :
    (p.inspect clock).Knows known := by
  unfold Poll.inspect Poll.pace
  split
  · trivial
  · split
    · trivial
    · split
      · exact hlatest
      · exact knows_fetch hlatest

/-- The end of a pause leaves a watch with a known link. -/
theorem Knows.go {w : Watch} (hknows : w.Knows known) : (w.resume clock .go).Knows known := by
  cases w with
  | pausing p => exact knows_fetch hknows
  | fetching p link => exact hknows
  | «over» result => trivial

/-- A reply leaves a watch with its own link, which is known then. -/
theorem Knows.reply {w : Watch} {known' : String → Prop} (hknows : w.Knows known)
    {result : Except TrialError Snapshot} (hmore : ∀ path, known path → known' path)
    (hlink : ∀ link, IsLinkOf result link → known' link) :
    (w.resume clock (.reply result)).Knows known' := by
  cases w with
  | pausing p => exact fun link hlatest => hmore link (hknows link hlatest)
  | fetching p link =>
    cases result with
    | error e => trivial
    | ok s => exact knows_inspect fun link hlatest => hlink link ⟨s, rfl, hlatest⟩
  | «over» result => trivial

/-- A watch asks at a link that it knows. -/
theorem Knows.path {w : Watch} {request : Request} (hknows : w.Knows known)
    (hwait : w.wait = .reply request) : known request.path := by
  cases w with
  | pausing p | «over» result => cases hwait
  | fetching p link =>
    cases hwait
    exact hknows

/-- A watch keeps to the links of its replies. -/
theorem keepsTo_caller (clock : Nat → Instant) : (caller clock).KeepsTo Knows where
  asks _ _ _ hknows hwait := hknows.path hwait
  paused _ _ _ _ hknows _ := hknows.go
  replied _ _ _ _ _ _ hknows _ hmore hlink := hknows.reply hmore hlink

end Watch

namespace Attempt

variable {s : Settings} {m : Moment} {known : String → Prop}

/-- Whether the link that the watch of an attempt goes on with is known. -/
def KnowsLink (known : String → Prop) : Attempt → Prop
  | .watching w => w.Knows known
  | _ => True

/-- Whether an attempt knows the paths of its settings and the link that its watch goes on with. -/
structure Knows (s : Settings) (known : String → Prop) (a : Attempt) : Prop where
  own : ∀ path ∈ s.ownPaths, known path
  link : a.KnowsLink known

/-- An attempt whose watch has gone on goes on with the watch's link. -/
theorem knows_settle {w : Watch} (hown : ∀ path ∈ s.ownPaths, known path) (hknows : w.Knows known) :
    (settle m w).1.Knows s known := by
  refine ⟨hown, ?_⟩
  unfold settle
  split
  · trivial
  · split <;> trivial
  · exact hknows

/-- An attempt whose request has been answered goes on with the link of the answer. -/
theorem knows_posted {ready : UInt64} {postedAt : Instant} {initial : Snapshot}
    (hown : ∀ path ∈ s.ownPaths, known path)
    (hlink : ∀ link, initial.selfLink? = some link → known link) :
    (posted s m ready postedAt initial).1.Knows s known := by
  unfold posted
  split
  · exact ⟨hown, trivial⟩
  · exact knows_settle hown (Watch.knows_inspect hlink)

/-- An attempt keeps to the paths of its settings and the links of its replies. -/
theorem keepsTo_caller (s : Settings) (moment : Nat → Moment) :
    (caller s moment).KeepsTo fun known a => a.1.Knows s known where
  asks known a request hknows hwait := by
    obtain ⟨a, events⟩ := a
    cases a with
    | sampling =>
      cases hwait
      exact hknows.own _ s.fleetPath_mem_ownPaths
    | requesting ready postedAt =>
      cases hwait
      exact hknows.own _ s.allocationsPath_mem_ownPaths
    | watching w => exact Watch.Knows.path hknows.link hwait
    | «over» result | crashed crash => cases hwait
  paused known k a span hknows hwait := by
    obtain ⟨a, events⟩ := a
    cases a with
    | watching w => exact knows_settle hknows.own (Watch.Knows.go hknows.link)
    | sampling | requesting ready postedAt | «over» result | crashed crash => cases hwait
  replied known known' k a request result hknows hwait hmore hlink := by
    obtain ⟨a, events⟩ := a
    have hown : ∀ path ∈ s.ownPaths, known' path :=
      fun path hpath => hmore path (hknows.own path hpath)
    cases a with
    | sampling =>
      cases result with
      | error e => exact ⟨hown, trivial⟩
      | ok fleet =>
        refine ⟨hown, ?_⟩
        simp only [caller, resume, sample]
        split <;> trivial
    | requesting ready postedAt =>
      cases result with
      | error e => exact ⟨hown, trivial⟩
      | ok initial => exact knows_posted hown fun link hlatest => hlink link ⟨initial, rfl, hlatest⟩
    | watching w =>
      simp only [caller, resume_watching]
      exact knows_settle hown (Watch.Knows.reply hknows.link hmore hlink)
    | «over» result | crashed crash => cases hwait

end Attempt

namespace Readiness

variable {known : String → Prop} {now : Instant}

/-- Whether the handle that a wait for a fleet goes on with is known. -/
def Knows (known : String → Prop) : Readiness → Prop
  | .pausing c => known c.handle
  | .fetching c => known c.handle
  | .over _ => True

/-- A known handle stays known. -/
theorem Knows.mono {r : Readiness} {known' : String → Prop} (hknows : r.Knows known)
    (hmore : ∀ path, known path → known' path) : r.Knows known' := by
  cases r with
  | pausing c | fetching c => exact hmore _ hknows
  | «over» result => trivial

/-- What goes on with a census goes on with its handle. -/
theorem knows_next {c : Census} (hhandle : known c.handle) : (c.next now).Knows known := by
  rcases c.next_cases now with ⟨_, hnext⟩ | ⟨_, hnext | hnext⟩ <;> rw [hnext]
  · trivial
  · exact hhandle
  · exact hhandle

/-- A wait for a fleet keeps its handle, whatever it gets. -/
theorem Knows.resume {r : Readiness} (hknows : r.Knows known) (answer : Answer) :
    (r.resume now answer).Knows known := by
  unfold Readiness.resume
  split
  · exact hknows
  · split
    · trivial
    · exact knows_next hknows
  · trivial
  · exact hknows

end Readiness

namespace Trial

variable {s : Settings} {m : Moment} {known : String → Prop} {t : Trial}

/-- The coordinator of a trial as a caller, with the moments at which it goes on. -/
def caller (moment : Nat → Moment) : Caller Trial :=
  ⟨coordinatorWait, fun k => resumeCoordinator (moment k)⟩

/-- Where the coordinator of a trial stands: it creates the fleet, waits for it with a known handle,
or is beyond the setup. -/
inductive Stands (known : String → Prop) (t : Trial) : Prop
  | creating (hphase : t.phase = .creating)
  | scaling {r : Readiness} (hphase : t.phase = .scaling r) (hknows : r.Knows known)
  | beyond (hbeyond : t.phase.IsBeyondSetup)

/-- Whether the coordinator of a trial with some settings knows the paths of these settings and the
handle of the fleet. -/
structure Knows (s : Settings) (known : String → Prop) (t : Trial) : Prop where
  settings : t.settings = s
  own : ∀ path ∈ s.ownPaths, known path
  stands : t.Stands known

/-- A trial goes on with the handle of the wait for its fleet. -/
theorem stands_awaitFleet {r : Readiness} (hknows : r.Knows known) :
    (t.awaitFleet m r).Stands known := by
  unfold awaitFleet
  split
  · exact .beyond (isBeyondSetup_launch _)
  · exact .beyond trivial
  · exact .scaling rfl hknows

/-- Once its fleet has been created, a trial waits for it with the self-link of the answer or with
the fleet's own path. -/
theorem stands_created {result : Except TrialError Snapshot} (hfleet : known t.settings.fleetPath)
    (hlink : ∀ link, IsLinkOf result link → known link) : (t.created m result).Stands known := by
  rcases t.created_cases m result with ⟨e, -, -, hfailed⟩ | ⟨handle, hhandle, hawaits⟩
  · rw [hfailed]
    exact .beyond trivial
  · rw [hawaits]
    refine stands_awaitFleet (Readiness.knows_next ?_)
    cases hhandle with
    | linked hlinked => exact hlink _ ⟨_, rfl, hlinked⟩
    | unlinked | present => exact hfleet

/-- The coordinator keeps to the paths of its settings and the links of its replies. -/
theorem keepsTo_caller (s : Settings) (moment : Nat → Moment) :
    (caller moment).KeepsTo (Knows s) where
  asks known t request hknows hwait := by
    obtain ⟨rfl, hown, hstands⟩ := hknows
    cases hstands with
    | creating hphase =>
      simp only [caller, coordinatorWait, hphase] at hwait
      cases hwait
      exact hown _ t.settings.fleetsPath_mem_ownPaths
    | @scaling r hphase hhandle =>
      simp only [caller, coordinatorWait, hphase] at hwait
      cases r <;> cases hwait
      exact hhandle
    | beyond hbeyond =>
      have hrequest : t.coordinatorWait.request? = some request := by
        rw [show t.coordinatorWait = .reply request from hwait]
        rfl
      rw [(delete_of_request hbeyond hrequest).1]
      exact hown _ t.settings.fleetPath_mem_ownPaths
  paused known k t span hknows hwait := by
    obtain ⟨rfl, hown, hstands⟩ := hknows
    have hadmits : t.coordinatorWait.Admits .go := by
      rw [show t.coordinatorWait = .pause span from hwait]
      exact .rested span
    refine ⟨(move_resumeCoordinator hadmits).settings_eq, hown, ?_⟩
    cases hstands with
    | creating hphase =>
      simp only [caller, coordinatorWait, hphase] at hwait
      cases hwait
    | scaling hphase hhandle =>
      simp only [caller, resumeCoordinator, hphase]
      exact stands_awaitFleet (hhandle.resume _)
    | beyond hbeyond => exact .beyond (isBeyondSetup_resume hbeyond hadmits)
  replied known known' k t request result hknows hwait hmore hlink := by
    obtain ⟨rfl, hown, hstands⟩ := hknows
    have hadmits : t.coordinatorWait.Admits (.reply result) := by
      rw [show t.coordinatorWait = .reply request from hwait]
      exact .replied request result
    have hown' : ∀ path ∈ t.settings.ownPaths, known' path :=
      fun path hpath => hmore path (hown path hpath)
    refine ⟨(move_resumeCoordinator hadmits).settings_eq, hown', ?_⟩
    cases hstands with
    | creating hphase =>
      simp only [caller, resumeCoordinator, hphase]
      exact stands_created (hown' _ t.settings.fleetPath_mem_ownPaths) hlink
    | scaling hphase hhandle =>
      simp only [caller, resumeCoordinator, hphase]
      exact stands_awaitFleet (Readiness.Knows.resume (hhandle.mono hmore) _)
    | beyond hbeyond => exact .beyond (isBeyondSetup_resume hbeyond hadmits)

end Trial

namespace Http

variable {s : Settings} {c : Client} {request : Request} {out : Outgoing} {path : String}

/-- Where a client goes with a path: to the authority that the path names of its own, or else to the
control plane's server. -/
def Client.GoesTo (c : Client) (path : String) (address : Address) : Prop :=
  match ownAuthority? c.base.scheme path with
  | none => address.root = c.base.root
  | some (scheme, rest) => readAuthority scheme rest = .ok address

/-- Whether a request carries the custom headers of a client. -/
def Client.IsCarriedBy (c : Client) (out : Outgoing) : Prop :=
  ∀ header ∈ c.headers, (lowerName header.1, header.2) ∈ out.fields

/-- A request carries the custom headers, wherever it goes. -/
theorem Client.isCarriedBy_of_prepare (hout : c.prepare request = .ok out) : c.IsCarriedBy out := by
  obtain ⟨address, -, -, -, rfl⟩ := prepare_eq_ok_iff.mp hout
  intro header hheader
  exact List.mem_append_left _ (List.mem_append_right _ (List.mem_map_of_mem hheader))

/-- A request goes where its path says, if that names an authority, and else to the server. -/
theorem Client.IsWeb.goesTo (hweb : c.IsWeb) (hout : c.prepare request = .ok out) :
    c.GoesTo request.path out.address := by
  obtain ⟨address, hjoin, -, hscheme, rfl⟩ := prepare_eq_ok_iff.mp hout
  have hbase := isWeb_of_isHttpScheme hweb.scheme
  unfold GoesTo
  split
  · exact root_of_join hbase hweb.segments ‹_› hjoin (isWeb_of_isHttpScheme hscheme)
  · exact (join_of_ownAuthority hbase hweb.segments ‹_›).symm.trans hjoin

/-- The paths that are made from the settings name no authority. -/
theorem ownAuthority?_of_mem_ownPaths (hpath : path ∈ s.ownPaths) (scheme : List Char) :
    ownAuthority? scheme path = none := by
  obtain ⟨text, hclean⟩ := Settings.exists_clean_of_mem_ownPaths hpath
  have hscheme : splitScheme ('/' :: 'a' :: text) = none := rfl
  have hslashes : startsTwoSlashes ('/' :: 'a' :: text) = false := rfl
  simp only [ownAuthority?, hclean, hscheme, hslashes, Bool.false_eq_true, if_false]

/-- Where a caller sends its requests: to paths that it knows from its start or from an earlier
reply, and so to the control plane's server until one of these names another authority. -/
structure Entrusts {α : Type} (p : Caller α) (c : Exchange) (start : α) (known : String → Prop) :
    Prop where
  follows : FollowsLinks p c start known
  stays : ∀ n request out, p.wait (Dialogue.after p c start n).state = .reply request →
    c.client.prepare request = .ok out →
    (∀ path, c.Reveals known (Dialogue.after p c start n).requests.length path →
      ownAuthority? c.client.base.scheme path = none) →
    out.address.root = c.client.base.root

/-- A caller that follows links only if they were revealed stays on the server as long as these
name no authority. -/
theorem FollowsLinks.entrusts {α : Type} {p : Caller α} {c : Exchange} {start : α}
    {known : String → Prop} (hfollows : FollowsLinks p c start known) (hweb : c.client.IsWeb) :
    Entrusts p c start known where
  follows := hfollows
  stays n request out hwait hout hnone := by
    have hgoes := hweb.goesTo hout
    rwa [Client.GoesTo, hnone _ (hfollows n request hwait)] at hgoes

/-- **Credentials go where self-links say.** With settings that pass their check, every request
carries the custom headers. It goes to the authority that its path names of its own, if it names
one, and else to the scheme, the login, the host and the port of the control plane's URL. The paths
that are made from the settings name none. A watch asks at the self-links of its snapshots, and the
setup of a fleet and an attempt ask at the paths that are made from the settings and the self-links
of earlier replies. So they stay on the control plane's server until such a link names an authority.
-/
theorem credentials_follow_links (s : Settings) (hcheck : s.check = .ok ()) :
    ∃ c, Client.ofSettings s = .ok c ∧
      (∀ request out, c.prepare request = .ok out →
        c.IsCarriedBy out ∧ c.GoesTo request.path out.address) ∧
      (∀ path ∈ s.ownPaths, ownAuthority? c.base.scheme path = none) ∧
      ∀ reply : Nat → Option Reply,
        (∀ (limit : Option Duration) (interval : Duration) (initial : Snapshot)
          (postedAt : Instant) (clock : Nat → Instant),
          Entrusts (Watch.caller clock) ⟨c, reply⟩
            (Watch.start limit interval initial postedAt (clock 0))
            fun link => initial.selfLink? = some link) ∧
        (∀ moment : Nat → Moment,
          Entrusts (Trial.caller moment) ⟨c, reply⟩ { Trial.create s with phase := .creating }
            fun path => path ∈ s.ownPaths) ∧
        ∀ moment : Nat → Moment,
          Entrusts (Attempt.caller s moment) ⟨c, reply⟩ (.sampling, [])
            fun path => path ∈ s.ownPaths := by
  obtain ⟨c, hclient, hweb⟩ := exists_client_of_check hcheck
  refine ⟨c, hclient,
    fun request out hout => ⟨Client.isCarriedBy_of_prepare hout, hweb.goesTo hout⟩,
    fun path hpath => ownAuthority?_of_mem_ownPaths hpath _, fun reply => ⟨?_, ?_, ?_⟩⟩
  · intro limit interval initial postedAt clock
    have hstart : Watch.Knows (fun link => initial.selfLink? = some link)
        (Watch.start limit interval initial postedAt (clock 0)) :=
      Watch.knows_inspect fun _ hlink => hlink
    exact ((Watch.keepsTo_caller clock).followsLinks hstart).entrusts hweb
  · intro moment
    have hstart : Trial.Knows s (fun path => path ∈ s.ownPaths)
        { Trial.create s with phase := .creating } := ⟨rfl, fun _ hpath => hpath, .creating rfl⟩
    exact ((Trial.keepsTo_caller s moment).followsLinks hstart).entrusts hweb
  · intro moment
    have hstart : Attempt.Knows s (fun path => path ∈ s.ownPaths) .sampling :=
      ⟨fun _ hpath => hpath, trivial⟩
    exact ((Attempt.keepsTo_caller s moment).followsLinks hstart).entrusts hweb

/-- The settings of a small trial with a bearer token. -/
def withToken : Settings :=
  { Settings.small 1 1 with target.headers := ["Authorization: Bearer t0ken"] }

/-- The client of a trial with a bearer token. -/
def tokenClient : Client := { localClient with headers := [("Authorization", "Bearer t0ken")] }

/-- A bearer token is an acceptable header. -/
theorem check_withToken : withToken.check = .ok () := by with_unfolding_all rfl

/-- The client is the one that the settings ask for. -/
theorem ofSettings_withToken : Client.ofSettings withToken = .ok tokenClient := by
  with_unfolding_all rfl

/-- A control plane whose fleet is ready and whose allocation has its link on another server. -/
def luring : Exchange where
  client := tokenClient
  reply k := [⟨200, "\x7b\"status\":\x7b\"readyReplicas\":3\x7d\x7d"⟩,
    ⟨201, "\x7b\"metadata\":\x7b\"selfLink\":\"//elsewhere/a\"\x7d\x7d"⟩][k]?

/-- An attempt at that control plane. -/
def lured (n : Nat) : Dialogue (Attempt × List Event) :=
  Dialogue.after (Attempt.caller withToken fun _ => .origin) luring (.sampling, []) n

/-- The attempt goes on with the self-link of its second reply. -/
theorem wait_lured : (lured 2).state.1.wait withToken = .reply (.fetch "//elsewhere/a") := by
  with_unfolding_all rfl

/-- The request for that link. -/
def luredRequest : Outgoing where
  verb := .get
  address := { scheme := "http".toList, host := some (.domain "elsewhere".toList),
               path := .segments ["a".toList] }
  fields := [("authorization", "Bearer t0ken")]
  body := ""

/-- The request for that link is made on another server. -/
theorem prepare_luredRequest : tokenClient.prepare (.fetch "//elsewhere/a") = .ok luredRequest := by
  with_unfolding_all rfl

/-- The third request of the attempt goes to a link that a reply has revealed and where that link
says, while the paths that are made from the settings stay on the control plane's server. -/
theorem credentials_follow_links_elsewhere :
    withToken.check = .ok () ∧
    luring.Reveals (fun path => path ∈ withToken.ownPaths) 2 "//elsewhere/a" ∧
    tokenClient.IsCarriedBy luredRequest ∧
    tokenClient.GoesTo "//elsewhere/a" luredRequest.address ∧
    ∀ path ∈ withToken.ownPaths, ownAuthority? tokenClient.base.scheme path = none := by
  have hlength : (lured 2).requests.length = 2 := by with_unfolding_all rfl
  obtain ⟨c, hclient, hsent, hown, hentrusts⟩ := credentials_follow_links withToken check_withToken
  obtain rfl := Except.ok.inj (hclient.symm.trans ofSettings_withToken)
  obtain ⟨-, -, hattempt⟩ := hentrusts luring.reply
  have hknown := (hattempt fun _ => .origin).follows 2 _ wait_lured
  obtain ⟨hcarried, hgoes⟩ := hsent _ _ prepare_luredRequest
  exact ⟨check_withToken, hlength ▸ hknown, hcarried, hgoes, hown⟩

/-- The third request of the attempt takes the bearer token to another server than the control
plane's. -/
theorem token_leaves_control_plane :
    withToken.check = .ok () ∧ Client.ofSettings withToken = .ok tokenClient ∧
    ((lured 2).state.1.wait withToken = .reply (.fetch "//elsewhere/a")) ∧
    tokenClient.prepare (.fetch "//elsewhere/a") = .ok luredRequest ∧
    luredRequest.address.host = some (.domain "elsewhere".toList) ∧
    luredRequest.address.root ≠ tokenClient.base.root ∧
    ("authorization", "Bearer t0ken") ∈ luredRequest.fields :=
  ⟨check_withToken, ofSettings_withToken, wait_lured, prepare_luredRequest, rfl, by decide,
    List.mem_cons_self⟩

end Http

end FleetTrial
