import ChatGateway.Proofs.Bundle.Stages

/-!
# Which answers are installed

An installation accepts the last answer of its fetch unless that answer blames the client or the
server or was cut off. An answer that reports neither success nor a blame, such as one that says
that nothing has changed or a redirection without an address, is therefore installed like a
bundle.
-/

namespace ChatGateway.Installer

variable {σ : Type}

/-- The last answer of the fetch reports success. -/
def Succeeds (network : Http.Network σ) (url : String) (site : Site σ) : Prop :=
  ∃ final, (download network url site).result = .ok final ∧
    final.received.status.isSuccess = true

/-- The installation from an address to a path installs answers that report success and no
others. -/
structure InstallsOnlySuccess (url path : String) (network : Http.Network σ) (site : Site σ) :
    Prop where
  downloaded : ∀ size, (run ⟨some url, path⟩ network site).1 = .ok (.downloaded size) →
    Succeeds network url site
  created : site.volume.hasEntry path = false →
    (run ⟨some url, path⟩ network site).2.volume.hasEntry path = true → Succeeds network url site
  /-- Any other answer is a failed download, and no file is touched. -/
  refused : site.volume.hasEntry path = false → ∀ final,
    (download network url site).result = .ok final → final.received.status.isSuccess = false →
      (∃ cause, (run ⟨some url, path⟩ network site).1 = .error (.download url cause)) ∧
        (run ⟨some url, path⟩ network site).2.volume = site.volume

variable {url path : String} {network : Http.Network σ} {site : Site σ}

/-- An installation that has a content does not end as a failed download. -/
theorem run_ne_download (absent : site.volume.hasEntry path = false) {content : Bytes}
    (h : contentOf (download network url site).result = .ok content) (cause : Http.FetchFault) :
    (run ⟨some url, path⟩ network site).1 ≠ .error (.download url cause) := by
  rw [run_of_content network site absent h]
  intro failed
  have held : (Progress.running (.makeParents content)).Holds ⟨some url, path⟩ content := rfl
  have ended := holds_finish ⟨some url, path⟩ network (site.afterDownload network url) held
  rw [failed] at ended
  obtain ⟨_, storage⟩ := ended
  cases storage

/-- What is accepted without success is not refused. -/
theorem InstallsOnlySuccess.succeeds (h : InstallsOnlySuccess url path network site)
    (absent : site.volume.hasEntry path = false) {content : Bytes}
    (accepted : contentOf (download network url site).result = .ok content) :
    Succeeds network url site := by
  obtain ⟨final, fetched, _⟩ := contentOf_eq_ok_iff.mp accepted
  refine ⟨final, fetched, ?_⟩
  cases success : final.received.status.isSuccess with
  | true => rfl
  | false =>
    obtain ⟨⟨cause, failed⟩, _⟩ := h.refused absent final fetched success
    exact absurd failed (run_ne_download absent accepted cause)

/-- If only success is accepted, only success is installed. -/
theorem installsOnlySuccess_of_succeeds
    (h : site.volume.hasEntry path = false → ∀ content,
      contentOf (download network url site).result = .ok content → Succeeds network url site) :
    InstallsOnlySuccess url path network site := by
  cases present : site.volume.hasEntry path with
  | true =>
    have run_eq := run_of_present ⟨some url, path⟩ network site present
    refine ⟨fun size downloaded => ?_, fun absent => ?_, fun absent => ?_⟩
    · rw [run_eq] at downloaded
      cases downloaded
    · rw [present] at absent
      contradiction
    · rw [present] at absent
      contradiction
  | false =>
    cases accepted : contentOf (download network url site).result with
    | ok content =>
      have succeeds := h present content accepted
      refine ⟨fun _ _ => succeeds, fun _ _ => succeeds, fun _ final fetched failed => ?_⟩
      obtain ⟨other, same, success⟩ := succeeds
      rw [fetched] at same
      cases same
      rw [success] at failed
      contradiction
    | error fault =>
      have run_eq := run_of_refused network site present accepted
      refine ⟨fun size downloaded => ?_, fun _ created => ?_, fun _ final _ _ => ?_⟩
      · rw [run_eq] at downloaded
        cases downloaded
      · rw [run_eq] at created
        exact absurd created (by simp [Site.afterDownload, present])
      · rw [run_eq]
        exact ⟨⟨fault, rfl⟩, rfl⟩

/-- Only success is installed exactly if the installation finds something at its path, or the
last answer was cut off, reports success, or blames the client or the server. -/
theorem installsOnlySuccess_iff (url path : String) (network : Http.Network σ) (site : Site σ) :
    InstallsOnlySuccess url path network site ↔
      (site.volume.hasEntry path = false → ∀ final,
        (download network url site).result = .ok final → final.received.complete = true →
          final.received.status.isSuccess = true ∨ final.received.status.isClientError = true ∨
            final.received.status.isServerError = true) := by
  constructor
  · intro only absent final fetched complete
    cases client : final.received.status.isClientError with
    | true => exact .inr (.inl rfl)
    | false =>
      cases server : final.received.status.isServerError with
      | true => exact .inr (.inr rfl)
      | false =>
        have accepted := contentOf_eq_ok_iff.mpr ⟨final, fetched, client, server, complete, rfl⟩
        obtain ⟨other, same, success⟩ := only.succeeds absent accepted
        rw [fetched] at same
        cases same
        exact .inl success
  · intro condition
    apply installsOnlySuccess_of_succeeds
    intro absent content accepted
    obtain ⟨final, fetched, client, server, complete, _⟩ := contentOf_eq_ok_iff.mp accepted
    refine ⟨final, fetched, ?_⟩
    rcases condition absent final fetched complete with success | blamed | blamed
    · exact success
    · rw [client] at blamed
      contradiction
    · rw [server] at blamed
      contradiction

/-- A network on which every answer says that nothing has changed. -/
def unchanging : Http.Network Unit :=
  ⟨fun _ state => (.answered { status := 304, headers := [], body := [] }, state)⟩

/-- An answer that says that nothing has changed is installed. -/
theorem not_installsOnlySuccess_of_unchanging :
    ¬ InstallsOnlySuccess "http://[::1]/b" "/bundle" unchanging
      { volume := ⟨⟨[]⟩, []⟩, network := () } := by
  rw [installsOnlySuccess_iff]
  intro condition
  let url : Http.Url := { scheme := "http", host := some "[::1]", path := .names ["b"] }
  have read : Http.Url.parse? "http://[::1]/b" = some url := by decide
  have usable : Http.Client.isUsable url = true := by decide
  have fetched : (download unchanging "http://[::1]/b" { volume := ⟨⟨[]⟩, []⟩, network := () }).result =
      .ok ⟨{ status := 304, headers := [], body := [] }, url⟩ := by
    have plain : Http.Client.withCredentials url [] = (url, []) := rfl
    simp only [download, Http.Client.send, read, plain, usable, if_true]
    rfl
  have final := condition (by decide) _ fetched rfl
  revert final
  decide

end ChatGateway.Installer
