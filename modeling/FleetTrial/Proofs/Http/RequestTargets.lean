import FleetTrial.Proofs.Settings.Acceptance
import FleetTrial.Proofs.Url.RootedPaths

/-!
# Where requests go

The paths at which a trial creates its fleet, fetches it and requests allocations begin with a
slash, so they are paths from the root of the control plane's server. Requests go to that server,
but the path of the control plane's own URL takes no part in them: two control planes at different
paths of one server get the same requests.
-/

namespace FleetTrial

open Url

namespace Settings

/-- The paths that are made from the settings. -/
def ownPaths (s : Settings) : List String := [s.fleetsPath, s.fleetPath, s.allocationsPath]

/-- The segments that these paths have in common, behind the first one. -/
def spaceSegments (s : Settings) : List (List Char) :=
  ["stable.agones.dev".toList, "v1alpha1".toList, "namespaces".toList, s.fleet.space.toList]

/-- The segments that each of these paths goes on with. -/
def ownSegments (s : Settings) : List (List (List Char)) :=
  [["fleets".toList], ["fleets".toList, s.fleet.name.toList], ["gameserverallocations".toList]]

/-- Whether the names in the settings stand in a path as they are. -/
structure IsPlainlyNamed (s : Settings) : Prop where
  space : IsPlainSegment s.fleet.space.toList
  fleet : IsPlainSegment s.fleet.name.toList

variable {s : Settings} {path : String}

/-- The path at which fleets are created is made from the settings. -/
theorem fleetsPath_mem_ownPaths (s : Settings) : s.fleetsPath ∈ s.ownPaths := List.mem_cons_self

/-- The path of the fleet is made from the settings. -/
theorem fleetPath_mem_ownPaths (s : Settings) : s.fleetPath ∈ s.ownPaths :=
  List.mem_cons_of_mem _ List.mem_cons_self

/-- The path at which allocations are requested is made from the settings. -/
theorem allocationsPath_mem_ownPaths (s : Settings) : s.allocationsPath ∈ s.ownPaths :=
  List.mem_cons_of_mem _ (List.mem_cons_of_mem _ List.mem_cons_self)

/-- The path of the resources in the fleet's namespace is made of segments. -/
theorem toList_spacePath (s : Settings) :
    s.spacePath.toList = Path.text (.segments ("apis".toList :: s.spaceSegments)) := by
  have hfixed : ("/apis/" ++ apiVersion ++ "/namespaces/").toList =
      Path.text (.segments ["apis".toList, "stable.agones.dev".toList, "v1alpha1".toList,
        "namespaces".toList]) ++ ['/'] := rfl
  rw [spacePath, String.toList_append, hfixed, List.append_assoc]
  exact congrArg _ (List.append_nil _).symm

/-- Each path that is made from the settings is made of segments. -/
theorem exists_segments_of_mem_ownPaths (hpath : path ∈ s.ownPaths) :
    ∃ more ∈ s.ownSegments,
      path.toList = Path.text (.segments ("apis".toList :: (s.spaceSegments ++ more))) := by
  have htext (more : List (List Char)) :
      Path.text (.segments ("apis".toList :: (s.spaceSegments ++ more))) =
        s.spacePath.toList ++ Path.text (.segments more) := by
    rw [toList_spacePath, Path.text, Path.text, Path.text, ← List.cons_append, List.flatMap_append]
  simp only [ownPaths, List.mem_cons, List.not_mem_nil, or_false] at hpath
  simp only [ownSegments, List.mem_cons, List.not_mem_nil, or_false, exists_eq_or_imp,
    exists_eq_left, htext]
  rcases hpath with rfl | rfl | rfl
  · left
    rw [fleetsPath, String.toList_append]
    rfl
  · right
    left
    simp only [fleetPath, fleetsPath, String.toList_append, List.append_assoc]
    exact congrArg _ (congrArg _ (List.append_nil _).symm)
  · right
    right
    rw [allocationsPath, String.toList_append]
    rfl

/-- The segments of plainly named settings are plain. -/
theorem IsPlainlyNamed.isPlainSegment (hplain : s.IsPlainlyNamed) {more : List (List Char)}
    (hmore : more ∈ s.ownSegments) :
    ∀ part ∈ "apis".toList :: (s.spaceSegments ++ more), IsPlainSegment part := by
  simp only [ownSegments, List.mem_cons, List.not_mem_nil, or_false] at hmore
  simp only [spaceSegments, List.forall_mem_cons, List.forall_mem_append, List.not_mem_nil,
    false_imp_iff, implies_true, and_true]
  refine ⟨by decide, ⟨by decide, by decide, by decide, hplain.space⟩, ?_⟩
  rcases hmore with rfl | rfl | rfl
  · exact List.forall_mem_singleton.mpr (by decide)
  · exact List.forall_mem_cons.mpr ⟨by decide, List.forall_mem_singleton.mpr hplain.fleet⟩
  · exact List.forall_mem_singleton.mpr (by decide)

/-- A path that is made from the settings is a path from the root. -/
theorem exists_clean_of_mem_ownPaths (hpath : path ∈ s.ownPaths) :
    ∃ text, clean path.toList = '/' :: 'a' :: text := by
  obtain ⟨more, -, htext⟩ := exists_segments_of_mem_ownPaths hpath
  have hvisible : ∀ c ∈ ['/', 'a'], IsVisible c :=
    List.forall_mem_cons.mpr ⟨by decide, List.forall_mem_singleton.mpr (by decide)⟩
  obtain ⟨text, hclean, -⟩ := clean_append (List.cons_ne_nil '/' ['a']) hvisible
    ("pis".toList ++ Path.text (.segments (s.spaceSegments ++ more)))
  exact ⟨text, htext ▸ hclean⟩

end Settings

namespace Http

variable {s : Settings} {c : Client} {request : Request} {out : Outgoing}

/-- Whether a client sends over HTTP. -/
structure Client.IsWeb (c : Client) : Prop where
  scheme : isHttpScheme c.base.schemeText = true
  segments : c.base.HasSegments

/-- The schemes of HTTP are schemes of the web. -/
theorem isWeb_of_isHttpScheme {address : Address}
    (hscheme : isHttpScheme address.schemeText = true) : isWeb address.scheme = true := by
  have htext : address.scheme = address.schemeText.toList := String.toList_ofList.symm
  rw [isHttpScheme, Bool.or_eq_true, beq_iff_eq, beq_iff_eq] at hscheme
  rcases hscheme with hscheme | hscheme <;> rw [htext, hscheme] <;> rfl

/-- There is a client for settings that have passed their check, and it sends over HTTP. -/
theorem exists_client_of_check (hcheck : s.check = .ok ()) :
    ∃ c, Client.ofSettings s = .ok c ∧ c.IsWeb := by
  have hparts := Settings.parts_of_check hcheck
  obtain ⟨base, hparse, hscheme⟩ := Settings.scheme_of_check hparts.target
  obtain ⟨headers, hsplit, -⟩ := exists_splitHeaders hparts.headers
  have hhttp : isHttpScheme base.schemeText = true := by
    rw [isHttpScheme, Bool.or_eq_true, beq_iff_eq, beq_iff_eq]
    exact hscheme
  refine ⟨⟨base, headers⟩, ?_, hhttp, hasSegments_of_parse hparse (isWeb_of_isHttpScheme hhttp)⟩
  simp only [Client.ofSettings, hparse, Settings.customHeaders, hsplit]

/-- The HTTP request for a request, once its URL is known. -/
def Client.outgoing (c : Client) (request : Request) (address : Address) : Outgoing :=
  ⟨request.verb, address, c.fields address request, (request.body?.map Json.render).getD ""⟩

/-- A request can be made exactly if its URL is one of HTTP and the custom headers are fields. -/
theorem Client.prepare_eq_ok_iff :
    c.prepare request = .ok out ↔
      ∃ address, c.base.join request.path = .ok address ∧ c.headers.all isField = true ∧
        isHttpScheme address.schemeText = true ∧ c.outgoing request address = out := by
  constructor
  · intro h
    unfold prepare at h
    split at h
    · cases h
    · rename_i address hjoin
      split at h
      · cases h
      · rename_i hfields
        split at h
        · cases h
        · rename_i hscheme
          cases h
          rw [Bool.not_eq_true, Bool.not_eq_false'] at hfields hscheme
          exact ⟨address, hjoin, hfields, hscheme, rfl⟩
  · rintro ⟨address, hjoin, hfields, hscheme, rfl⟩
    simp only [prepare, hjoin, hfields, hscheme, Bool.not_true, Bool.false_eq_true, if_false]
    rfl

/-- **Requests go to the control plane's server, and the path of its URL is left out.** With
settings that pass their check, the URL of a request at a path that is made from them has the
scheme, the login, the host and the port of the control plane's URL, and is the same for every URL
of a control plane on that server. If the names in the settings are plain, that path is requested
just as it is. A request at it can be made if the custom headers are header fields. -/
theorem requests_leave_path_of_base_out (s : Settings) (hcheck : s.check = .ok ()) :
    ∃ c, Client.ofSettings s = .ok c ∧ ∀ path ∈ s.ownPaths, ∃ address,
      c.base.join path = .ok address ∧ address.root = c.base.root ∧
      (∀ base : Address, base.root = c.base.root → base.HasSegments →
        base.join path = .ok address) ∧
      (s.IsPlainlyNamed → address.target = path) ∧
      ∀ request : Request, request.path = path → c.headers.all isField = true →
        c.prepare request = .ok (c.outgoing request address) := by
  obtain ⟨c, hclient, hhttp, hsegments⟩ := exists_client_of_check hcheck
  have hweb := isWeb_of_isHttpScheme hhttp
  refine ⟨c, hclient, fun path hpath => ?_⟩
  obtain ⟨text, hclean⟩ := Settings.exists_clean_of_mem_ownPaths hpath
  have hjoin := (join_of_rooted hweb hsegments hclean rfl).2
  refine ⟨_, hjoin, rfl, fun base hroot hsegments' => ?_, fun hplain => ?_,
    fun request hrequest hfields => ?_⟩
  · have hweb' : isWeb base.scheme = true := congrArg Address.scheme hroot ▸ hweb
    rw [(join_of_rooted hweb' hsegments' hclean rfl).2, Address.withPath_congr hroot]
  · obtain ⟨more, hmore, htext⟩ := Settings.exists_segments_of_mem_ownPaths hpath
    have hplainly := join_of_plain hweb hsegments (hplain.isPlainSegment hmore) nofun htext
    rw [Except.ok.inj (hjoin.symm.trans hplainly), target_of_path htext]
  · rw [← hrequest] at hjoin
    exact Client.prepare_eq_ok_iff.mpr ⟨_, hjoin, hfields, hhttp, rfl⟩

/-- The settings of a small trial at one of the clusters of a server. -/
def atCluster (cluster : String) : Settings :=
  { Settings.small 1 1 with target.url := "https://localhost/k8s/clusters/" ++ cluster }

/-- The name of a small trial's fleet and that of its namespace are plain. -/
theorem isPlainlyNamed_atCluster (cluster : String) : (atCluster cluster).IsPlainlyNamed where
  space := show IsPlainSegment "default".toList by decide
  fleet := show IsPlainSegment "fleet".toList by decide

/-- A small trial at a cluster requests its paths as they are from the root of the server. -/
theorem requests_leave_path_of_base_out_at_cluster :
    (atCluster "c1").check = .ok () ∧
    ∃ c, Client.ofSettings (atCluster "c1") = .ok c ∧ ∀ path ∈ (atCluster "c1").ownPaths,
      ∃ address, c.base.join path = .ok address ∧ address.root = c.base.root ∧
        address.target = path := by
  have hcheck : (atCluster "c1").check = .ok () := by with_unfolding_all rfl
  obtain ⟨c, hclient, hpaths⟩ := requests_leave_path_of_base_out (atCluster "c1") hcheck
  refine ⟨hcheck, c, hclient, fun path hpath => ?_⟩
  obtain ⟨address, hjoin, hroot, -, htarget, -⟩ := hpaths path hpath
  exact ⟨address, hjoin, hroot, htarget (isPlainlyNamed_atCluster "c1")⟩

/-- The URL of one of the clusters of a server. -/
def clusterAddress (cluster : String) : Address where
  scheme := "https".toList
  host := some (.domain "localhost".toList)
  path := .segments ["k8s".toList, "clusters".toList, cluster.toList]

/-- The URL at which fleets are created on that server. -/
def fleetsAddress : Address :=
  { clusterAddress "" with
    path := .segments ["apis".toList, "stable.agones.dev".toList, "v1alpha1".toList,
      "namespaces".toList, "default".toList, "fleets".toList] }

/-- The target below the path of a URL, for which a slash at the end of that path does not count. -/
def targetBelow (base : Address) (path : String) : String :=
  let front := base.path.text
  String.ofList (if front.getLast? = some '/' then front.dropLast else front) ++ path

/-- In two clusters of one server fleets are created at the same URL, which lies below neither. -/
theorem path_of_base_left_out :
    (atCluster "c1").check = .ok () ∧ (atCluster "c2").check = .ok () ∧
    Client.ofSettings (atCluster "c1") = .ok ⟨clusterAddress "c1", []⟩ ∧
    Client.ofSettings (atCluster "c2") = .ok ⟨clusterAddress "c2", []⟩ ∧
    targetBelow (clusterAddress "c1") (atCluster "c1").fleetsPath =
      "/k8s/clusters/c1/apis/stable.agones.dev/v1alpha1/namespaces/default/fleets" ∧
    (clusterAddress "c1").join (atCluster "c1").fleetsPath = .ok fleetsAddress ∧
    (clusterAddress "c2").join (atCluster "c2").fleetsPath = .ok fleetsAddress ∧
    fleetsAddress.target = "/apis/stable.agones.dev/v1alpha1/namespaces/default/fleets" := by
  refine ⟨?_, ?_, ?_, ?_, ?_, ?_, ?_, ?_⟩
  all_goals with_unfolding_all rfl

end Http

end FleetTrial
