import ChatGateway.Bundle

/-!
# Stages of an installation

An installation that finds nothing at its path and knows an address fetches once. What the fetch
brings either ends the installation, and then no file was touched, or it is carried through the
stages behind the fetch, which end with it or because of the files.
-/

namespace ChatGateway.Installer

/-- The content that the stages behind the fetch carry. -/
def Stage.content? : Stage → Option Bytes
  | check | fetch _ => none
  | makeParents content | truncate content | fill _ content | rename content => some content

/-- The installation has fetched this content: it carries it on, has installed it, or has failed
because of the files. -/
def Progress.Holds (installer : Installer) (content : Bytes) : Progress → Prop
  | running stage => stage.content? = some content
  | ended (.ok outcome) => outcome = .downloaded content.length
  | ended (.error fault) => ∃ cause, fault = .storage installer.path cause

variable {σ : Type} (installer : Installer) (network : Http.Network σ) (site : Site σ)

/-- A step behind the fetch keeps the content. -/
theorem holds_step {stage : Stage} {content : Bytes} (h : stage.content? = some content) :
    (installer.step network stage site).1.Holds installer content := by
  cases stage with
  | check => contradiction
  | fetch url => contradiction
  | makeParents carried =>
    simp only [step]
    split
    · exact ⟨_, rfl⟩
    · exact h
  | truncate carried =>
    simp only [step]
    split
    · exact ⟨_, rfl⟩
    · exact h
  | fill place carried => exact h
  | rename carried =>
    cases h
    simp only [step]
    split
    · exact ⟨_, rfl⟩
    · rfl

/-- An installation that has fetched a content ends with it or because of the files. -/
theorem holds_finish {progress : Progress} {content : Bytes} (h : progress.Holds installer content) :
    (Progress.ended (installer.finish network progress site).1).Holds installer content := by
  fun_induction finish installer network progress site with
  | case1 site result => exact h
  | case2 site stage next ih => exact ih (installer.holds_step network site h)

/-- The one fetch of an installation. -/
def download (network : Http.Network σ) (url : String) (site : Site σ) : Http.Fetched σ :=
  Http.Client.send network "GET" url [] [] site.network

/-- The site after the fetch. -/
def Site.afterDownload (network : Http.Network σ) (url : String) (site : Site σ) : Site σ :=
  { site with
    network := (download network url site).state
    sent := site.sent ++ (download network url site).sent }

/-- A content comes from an answer that blames nobody and of which all came. -/
theorem contentOf_eq_ok_iff {result : Except Http.FetchFault Http.Final} {content : Bytes} :
    contentOf result = .ok content ↔ ∃ final, result = .ok final ∧
      final.received.status.isClientError = false ∧ final.received.status.isServerError = false ∧
      final.received.complete = true ∧ final.received.body = content := by
  cases result with
  | error fault => simp [contentOf]
  | ok final =>
    obtain ⟨received, url⟩ := final
    simp only [contentOf, Except.ok.injEq, exists_eq_left']
    split
    · rename_i blamed
      rw [Bool.or_eq_true] at blamed
      rcases blamed with client | server
      · simp [client]
      · simp [server]
    · rename_i nobody
      rw [Bool.or_eq_true, not_or, Bool.not_eq_true, Bool.not_eq_true] at nobody
      split
      · rename_i complete
        simp [nobody, complete]
      · rename_i cutOff
        simp [nobody, cutOff]

section Run

variable {url path : String}

/-- An installation that is running goes on behind its next step. -/
theorem finish_running (stage : Stage) :
    installer.finish network (.running stage) site =
      installer.finish network (installer.step network stage site).1
        (installer.step network stage site).2 := by
  rw [finish]

/-- An installation that has ended does nothing more. -/
theorem finish_ended (result : Except BundleFault BundleOutcome) :
    installer.finish network (.ended result) site = (result, site) := by
  rw [finish]

section Steps

variable {content : Bytes}

/-- The check ends an installation whose bundle is already there. -/
theorem step_check_of_present (present : site.volume.hasEntry installer.path = true) :
    installer.step network .check site =
      (.ended (.ok .alreadyPresent), site.note installer.presentEvent) := by
  simp only [step, present, if_true]

/-- The check ends an installation that has no address to load the bundle from. -/
theorem step_check_of_nowhere (absent : site.volume.hasEntry installer.path = false)
    (nowhere : installer.url = none) :
    installer.step network .check site = (.ended (.ok .skipped), site.note skippedEvent) := by
  simp only [step, absent, Bool.false_eq_true, if_false, nowhere]

/-- Otherwise the bundle is fetched after the check. -/
theorem step_check_of_absent (absent : site.volume.hasEntry installer.path = false)
    (known : installer.url = some url) :
    installer.step network .check site = (.running (.fetch url), site) := by
  simp only [step, absent, Bool.false_eq_true, if_false, known]

/-- A bundle that cannot be fetched ends the installation. -/
theorem step_fetch_of_refused {fault : Http.FetchFault}
    (h : contentOf (download network url site).result = .error fault) :
    installer.step network (.fetch url) site =
      (.ended (.error (.download url fault)), site.afterDownload network url) := by
  unfold download at h
  simp only [step, h]
  rfl

/-- A bundle that was fetched is stored next, beginning with the directories around its path. -/
theorem step_fetch_of_content (h : contentOf (download network url site).result = .ok content) :
    installer.step network (.fetch url) site =
      (.running (.makeParents content), site.afterDownload network url) := by
  unfold download at h
  simp only [step, h]
  rfl

end Steps

/-- What is at its path ends an installation. -/
theorem run_of_present (present : site.volume.hasEntry installer.path = true) :
    installer.run network site = (.ok .alreadyPresent, site.note installer.presentEvent) := by
  rw [run, finish_running, step_check_of_present installer network site present, finish_ended]

/-- Without anything at its path, an installation that knows no address ends. -/
theorem run_of_nowhere (absent : site.volume.hasEntry path = false) :
    run ⟨none, path⟩ network site = (.ok .skipped, site.note skippedEvent) := by
  rw [run, finish_running, step_check_of_nowhere ⟨none, path⟩ network site absent rfl, finish_ended]

/-- Without anything at its path an installation goes on to the fetch. -/
theorem run_of_absent (absent : site.volume.hasEntry path = false) :
    run ⟨some url, path⟩ network site = finish ⟨some url, path⟩ network (.running (.fetch url)) site := by
  rw [run, finish_running, step_check_of_absent ⟨some url, path⟩ network site absent rfl]

/-- A fetch without a content ends an installation and touches no file. -/
theorem run_of_refused (absent : site.volume.hasEntry path = false) {fault : Http.FetchFault}
    (h : contentOf (download network url site).result = .error fault) :
    run ⟨some url, path⟩ network site =
      (.error (.download url fault), site.afterDownload network url) := by
  rw [run_of_absent network site absent, finish_running,
    step_fetch_of_refused ⟨some url, path⟩ network site h, finish_ended]

/-- A fetched content is carried on. -/
theorem run_of_content (absent : site.volume.hasEntry path = false) {content : Bytes}
    (h : contentOf (download network url site).result = .ok content) :
    run ⟨some url, path⟩ network site =
      finish ⟨some url, path⟩ network (.running (.makeParents content))
        (site.afterDownload network url) := by
  rw [run_of_absent network site absent, finish_running,
    step_fetch_of_content ⟨some url, path⟩ network site h]

end Run

end ChatGateway.Installer
