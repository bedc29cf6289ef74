import ChatGateway.Proofs.Files.Walk
import ChatGateway.Proofs.Gateway.SecurityFields
import ChatGateway.Site.Assets

/-!
# The assets of the page are found

The page refers to its style and its script by paths below the path of the files. A gateway whose
directory of files holds them answers each of these paths with the asset as it is, under the policy that
lets the page use it. They are held where they were installed.
-/

namespace ChatGateway

namespace Site

/-- The path under which the page refers to an asset. -/
def reference (name : String) : String := Route.assetsPath ++ "/" ++ name

/-- Under any title some line of the page refers to each asset. -/
theorem refers_to_assets (title : String) : ∀ asset ∈ assets, ∃ line ∈ pageLines title,
    ∃ before after, line = before ++ ("\"" ++ reference asset.1 ++ "\"") ++ after := by
  have style : "    <link rel=\"stylesheet\" href=\"/static/style.css\">\n" =
      "    <link rel=\"stylesheet\" href=" ++ ("\"" ++ reference "style.css" ++ "\"") ++ ">\n" := by decide
  have script : "<script src=\"/static/app.js\"></script>\n" =
      "<script src=" ++ ("\"" ++ reference "app.js" ++ "\"") ++ "></script>\n" := by decide
  intro asset listed
  simp only [assets, List.mem_cons, List.not_mem_nil, or_false] at listed
  rcases listed with rfl | rfl
  · exact ⟨_, by simp [pageLines], _, _, style⟩
  · exact ⟨_, by simp [pageLines], _, _, script⟩

/-- No two assets have one name. -/
theorem nodup_assets : (assets.map Prod.fst).Nodup := by decide

/-- A name takes one step below a directory. -/
structure IsPlain (name : String) : Prop where
  single : Files.parts name = [name]
  relative : Files.isAbsolute name = false
  legal : name.toList.contains '\x00' = false
  short : name.utf8ByteSize ≤ Files.nameLimit
  stepsDown : name ≠ "" ∧ name ≠ "." ∧ name ≠ ".."

/-- The name of each asset does so. -/
theorem isPlain_of_asset {asset : String × Bytes} (listed : asset ∈ assets) : IsPlain asset.1 := by
  have style : IsPlain "style.css" := ⟨by decide, by decide, by decide, by decide, by decide⟩
  have script : IsPlain "app.js" := ⟨by decide, by decide, by decide, by decide, by decide⟩
  simp only [assets, List.mem_cons, List.not_mem_nil, or_false] at listed
  rcases listed with rfl | rfl
  · exact style
  · exact script

section Placing

variable (directory : Files.Place) (tree : Files.Tree) {files : List (String × Bytes)}

/-- Putting files into a directory leaves all other places as they are. -/
theorem lookup_foldl_put_of_ne {place : Files.Place}
    (outside : ∀ file ∈ files, place ≠ directory ++ [file.1]) :
    (files.foldl (fun tree (name, content) => tree.put (directory ++ [name]) (.file content))
      tree).lookup place = tree.lookup place := by
  induction files generalizing tree with
  | nil => rfl
  | cons file rest ih =>
    rw [List.forall_mem_cons] at outside
    rw [List.foldl_cons, ih _ outside.2, Files.Tree.lookup_put_of_ne tree _ outside.1]

/-- Of files with different names that are put into a directory each is there in the end. -/
theorem lookup_foldl_put (distinct : (files.map Prod.fst).Nodup) {file : String × Bytes}
    (listed : file ∈ files) :
    (files.foldl (fun tree (name, content) => tree.put (directory ++ [name]) (.file content))
      tree).lookup (directory ++ [file.1]) = some (.file file.2) := by
  induction files generalizing tree with
  | nil => contradiction
  | cons first rest ih =>
    rw [List.map_cons, List.nodup_cons] at distinct
    rw [List.foldl_cons]
    rcases List.mem_cons.mp listed with rfl | later
    · rw [lookup_foldl_put_of_ne, Files.Tree.lookup_put_self]
      · simp
      · intro other member same
        have name : file.1 = other.1 := by simpa using same
        exact distinct.1 (name ▸ List.mem_map_of_mem member)
    · exact ih _ distinct.2 later

end Placing

/-- After installing each asset is in the directory under its name, -/
theorem lookup_install (directory : Files.Place) (tree : Files.Tree) {asset : String × Bytes}
    (listed : asset ∈ assets) :
    (install directory tree).lookup (directory ++ [asset.1]) = some (.file asset.2) :=
  lookup_foldl_put directory _ nodup_assets listed

/-- and all other places are as they were, once the directory is there. -/
theorem lookup_install_of_ne {directory place : Files.Place} {tree : Files.Tree}
    (made : tree.lookup directory = some .directory)
    (outside : ∀ asset ∈ assets, place ≠ directory ++ [asset.1]) :
    (install directory tree).lookup place = tree.lookup place := by
  rw [install, lookup_foldl_put_of_ne directory _ outside]
  by_cases here : place = directory
  · subst here
    rw [made]
    by_cases root : place = []
    · rw [root]
      rfl
    · exact tree.lookup_put_self _ root
  · exact Files.Tree.lookup_put_of_ne tree _ here

section Joining

variable {directory name : String} (plain : IsPlain name) (named : directory ≠ "")
  (unended : directory.toList.getLast? ≠ some '/')

include plain named unended

/-- A path below a directory is written behind a slash. -/
theorem join_eq : Files.join directory name = directory ++ "/" ++ name := by
  simp [Files.join, plain.relative, named, unended]

/-- It takes one step more than the path of the directory, -/
theorem parts_join : Files.parts (Files.join directory name) = Files.parts directory ++ [name] := by
  have behind : (name.toList.splitOn '/').map String.ofList = [name] := plain.single
  rw [join_eq plain named unended, Files.parts, String.toList_append, String.toList_append,
    List.append_assoc]
  change ((directory.toList ++ '/' :: name.toList).splitOn '/').map String.ofList = _
  rw [List.splitOn_append_cons_self, List.map_append, behind]
  rfl

/-- and starts where that starts. -/
theorem start_join (volume : Files.Volume) :
    volume.start (Files.join directory name) = volume.start directory := by
  have first : (Files.join directory name).toList.head? = directory.toList.head? := by
    rw [join_eq plain named unended, String.toList_append, String.toList_append, List.append_assoc]
    cases chars : directory.toList with
    | nil => exact absurd (String.toList_eq_nil_iff.mp chars) named
    | cons c rest => rfl
  rw [Files.Volume.start, Files.Volume.start, Files.isAbsolute, Files.isAbsolute, first]

end Joining

/-- The assets are read where they were installed: in a directory that was there, under names that fit
into a path and were not those of directories. -/
theorem read_install {directory : String} {place current : Files.Place} {tree : Files.Tree}
    (located : Files.Volume.locate ⟨tree, current⟩ directory = .ok place)
    (made : tree.lookup place = some .directory)
    (free : ∀ asset ∈ assets, tree.lookup (place ++ [asset.1]) ≠ some .directory)
    (unended : directory.toList.getLast? ≠ some '/')
    (fits : ∀ asset ∈ assets, (Files.join directory asset.1).utf8ByteSize ≤ Files.pathLimit)
    {asset : String × Bytes} (listed : asset ∈ assets) :
    Files.Volume.read ⟨install place tree, current⟩ (Files.join directory asset.1) = .ok asset.2 := by
  have plain := isPlain_of_asset listed
  obtain ⟨legal, nonempty, -, walked⟩ := Files.Volume.locate_eq_ok_iff.mp located
  have named : directory ≠ "" := by
    rintro rfl
    exact absurd nonempty (by decide)
  have kept : Files.KeepsDirectories tree (install place tree) := by
    intro other isDirectory
    rw [lookup_install_of_ne made fun asset listed same => free asset listed (same ▸ isDirectory)]
    exact isDirectory
  have written := join_eq plain named unended
  have whole : (Files.join directory asset.1).toList.contains '\x00' = false := by
    simp only [List.contains_eq_mem, decide_eq_false_iff_not] at legal ⊢
    have name := plain.legal
    rw [List.contains_eq_mem, decide_eq_false_iff_not] at name
    simp [written, legal, name]
  have step : Files.step (install place tree) place asset.1 = .ok (place ++ [asset.1]) := by
    refine Files.step_eq_ok_iff.mpr ⟨kept place made, plain.short, ?_⟩
    simp [Files.enter, plain.stepsDown]
  rw [Files.Volume.read_eq_ok_iff, Files.Volume.entry?_eq_ok_iff]
  refine ⟨place ++ [asset.1], Files.Volume.locate_eq_ok_iff.mpr ⟨whole, ?_, fits asset listed, ?_⟩,
    lookup_install place tree listed⟩
  · simp [written]
  · rw [parts_join plain named unended, start_join plain named unended]
    exact Files.walk_concat_eq_ok_iff.mpr ⟨place, kept.walk walked, step⟩

end Site

namespace Gateway

variable {σ : Type}

/-- The directory of a gateway holds the assets of the page. -/
def HoldsAssets (gateway : Gateway) : Prop :=
  ∀ asset ∈ Site.assets,
    gateway.assets.volume.read (Files.join gateway.assets.directory asset.1) = .ok asset.2

/-- A request asks for all of what is at a path, whenever it was changed. -/
structure AsksFor (request : Http.Request) (path : String) : Prop where
  method : request.method = "GET"
  path : request.target.path = path
  whole : ∀ name ∈ ["range", "if-unmodified-since", "if-modified-since"],
    request.headers.values name = []

/-- A request that asks for all of a file still does so under an id. -/
theorem AsksFor.identified {request : Http.Request} {path : String} (asks : AsksFor request path)
    (id : String) : AsksFor (Layer.identified id request) path := by
  refine ⟨asks.method, asks.path, fun name listed => ?_⟩
  have other : name ≠ Trace.requestIdField := by
    rintro rfl
    exact absurd listed (by decide)
  exact (Trace.values_setLegal_of_ne _ _ other).trans (asks.whole name listed)

/-- A file that can be read is answered as it is to whoever asks for all of it. -/
theorem answer_of_read {assets : Http.Assets} {request : Http.Request} {path name : String}
    {content : Bytes} (asks : AsksFor request path)
    (below : Http.StaticFiles.namesBelow? path = some [name])
    (held : assets.volume.read (Files.join assets.directory name) = .ok content) :
    let response := (Http.StaticFiles.answer assets request).1
    response.status = 200 ∧ response.body = content := by
  have absent {name : String} (listed : name ∈ ["range", "if-unmodified-since", "if-modified-since"]) :
      request.headers.get? name = none := by
    rw [Http.Headers.get?, asks.whole name listed]
    rfl
  have file : assets.volume.hasDirectory (Files.join assets.directory name) = false := by
    rw [Files.Volume.hasDirectory, Files.Volume.read_eq_ok_iff.mp held]
    rfl
  have dates (changed : Nat) : Http.StaticFiles.statusByDates? request.headers changed = none := by
    simp [Http.StaticFiles.statusByDates?, Http.StaticFiles.dateOf?, absent]
  have whole : Http.StaticFiles.pathBelow assets.directory [name] =
      Files.join assets.directory name := rfl
  simp [Http.StaticFiles.answer, asks.method, asks.path, below, whole, file,
    Http.StaticFiles.answerFile, held, dates, absent, Http.StaticFiles.answerWith]

/-- A gateway that holds the assets of the page answers each path by which the page refers to one with
this asset, under the policy of the page. -/
theorem serves_references {gateway : Gateway} (holds : gateway.HoldsAssets) (around : Surroundings σ)
    (world : World σ) {request : Http.Request} {asset : String × Bytes} (listed : asset ∈ Site.assets)
    (asks : AsksFor request (Site.reference asset.1)) :
    let response := ((gateway.service request).run around world).1
    response.status = 200 ∧ response.body = asset.2 ∧
      response.headers.values "content-security-policy" = [Bytes.ofText Layer.pagePolicy] := by
  have routed : ∀ name ∈ Site.assets.map Prod.fst,
      Route.ofPath? (Site.reference name) = some (.assets ("/" ++ name)) ∧
        Http.StaticFiles.namesBelow? ("/" ++ name) = some [name] ∧
        Layer.isPagePath (Site.reference name) = true := by decide
  obtain ⟨route, below, ofPage⟩ := routed asset.1 (List.mem_map_of_mem listed)
  intro response
  have legal := Http.isFieldValue_of_visible (Layer.idIn_visible around world request.headers)
  let seen := Layer.identified (Layer.idIn around world request.headers) request
  have seenAsks := asks.identified (Layer.idIn around world request.headers)
  have dispatched : gateway.dispatch seen = gateway.serveFile ("/" ++ asset.1) seen := by
    simp only [dispatch, seenAsks.path, seen, route]
  let behind : Http.Request := { seen with target := { seen.target with path := "/" ++ asset.1 } }
  have behindAsks : AsksFor behind ("/" ++ asset.1) := ⟨seenAsks.method, rfl, seenAsks.whole⟩
  obtain ⟨status, body⟩ := answer_of_read behindAsks below (holds asset listed)
  have served : ((gateway.dispatch seen).run around
      (Layer.idWorld around world request.headers)).1 =
        Endpoint.measured (Http.StaticFiles.answer gateway.assets behind).1 := by
    rw [dispatched, serveFile, Task.run_logAll]
    rfl
  have left : response = Layer.stamped (Layer.idIn around world request.headers)
      (Layer.secure request.target.path
        (Endpoint.measured (Http.StaticFiles.answer gateway.assets behind).1)) := by
    rw [← served]
    exact run_layered_fst around gateway.dispatch request world
  have sets := Layer.sets_stamped legal request.target.path
    (Endpoint.measured (Http.StaticFiles.answer gateway.assets behind).1)
  rw [← left] at sets
  refine ⟨sets.status.trans status, sets.body.trans body, ?_⟩
  have policy := sets.values ("content-security-policy", Layer.policyText request.target.path)
    (List.mem_append_left _ (by simp [Layer.securityTexts]))
  rw [policy, Layer.policyText, asks.path, ofPage]
  rfl

end Gateway

end ChatGateway
