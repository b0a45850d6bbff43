import LayeredSettings.Proofs.Password.Disclosure

/-! What a run prints tells nothing about the text of the password: two runs that differ in it only
stop with the same error or print the same text. -/
namespace LayeredSettings

namespace Settings

variable {s t : Settings}

lemma Alike.toText_eq (h : s.Alike t) : s.toText = t.toText := by
  obtain @⟨s,v,w,hvw⟩ := h
  simp only [toText, map_mask_eq hvw]

lemma Alike.toJson_eq (h : s.Alike t) : s.toJson = t.toJson := by
  obtain ⟨-⟩ := h
  rfl

/-- Settings that differ in the text of the password only are printed alike. -/
theorem Alike.format_eq (h : s.Alike t) (format : OutputFormat) :
    s.format format = t.format format := by
  cases format with
  | text => exact h.toText_eq
  | json =>
    change s.toJson.pretty ++ "\n" = t.toJson.pretty ++ "\n"
    rw [h.toJson_eq]

end Settings

namespace Registry

variable {r s : Registry} {opener opener' : Opener}

/-- Running alike registries on files that differ in the password's entry only fails for the same
reason, or settles settings that differ in the text of the password only. -/
theorem Alike.run_result (h : r.Alike s)
    (hevents : ∀ path, (opener.load path).events = (opener'.load path).events)
    (hresults : ∀ path, ResultAlike (Dictionary.Alike fun _ _ => True) (opener.load path).result
      (opener'.load path).result) :
    ResultAlike Settings.Alike (r.run opener).result (s.run opener').result := by
  have hconfigured := (h.configure_sameIff hevents hresults).1
  unfold run
  cases hc : (r.configure opener).result with
  | error e =>
    rw [Outcome.andThen_of_error hc, Outcome.andThen_of_error (hconfigured.result ▸ hc)]
    exact .error e
  | ok _ =>
    rw [Outcome.andThen_of_ok hc, Outcome.andThen_of_ok (hconfigured.result ▸ hc),
      Outcome.after_result, Outcome.after_result, settle_result, settle_result]
    exact hconfigured.registry.ofRegistry

end Registry

namespace DifferInPassword

variable {q q' : Request} {opener opener' : Opener} {host host' : HostParameters}
  {env env' : Environment}

/-- Two runs that differ in the password fail at the same stage for the same reason, or settle
settings that differ in the text of the password only. -/
theorem resolveWith_result (h : DifferInPassword q q' opener opener' host host' env env') :
    ResultAlike Settings.Alike (q.resolveWith opener host env).result
      (q'.resolveWith opener' host' env').result := by
  have hhost := h.hostRegistry.1
  unfold Request.resolveWith
  rw [Logged.after_result, Logged.after_result]
  cases hr : (q.hostRegistry host.config.parameters env).result with
  | error e =>
    rw [hr] at hhost
    rw [Logged.andThen_of_error hr, Logged.andThen_of_error hhost.error_left]
    exact .error e
  | ok r =>
    rw [hr] at hhost
    obtain ⟨s,hs,hrs⟩ := hhost.ok_left
    have hrun := hrs.run_result h.events h.results
    rw [Logged.andThen_of_ok hr, Logged.andThen_of_ok hs, Logged.after_result, Logged.after_result]
    cases hsettings : (r.run opener).result with
    | error e =>
      rw [hsettings] at hrun
      rw [Logged.andThen_of_error (by rw [Outcome.inStage_of_error hsettings]),
        Logged.andThen_of_error (by rw [Outcome.inStage_of_error hrun.error_left])]
      exact .error _
    | ok settings =>
      rw [hsettings] at hrun
      obtain ⟨others,hothers,halike⟩ := hrun.ok_left
      rw [Logged.andThen_of_ok (by rw [Outcome.inStage_of_ok hsettings]),
        Logged.andThen_of_ok (by rw [Outcome.inStage_of_ok hothers])]
      exact .ok halike

/-- The printed result does not depend on the password: two runs that differ in it only end with the
same error, or print the same text in either format. -/
theorem printed_eq (h : DifferInPassword q q' opener opener' host host' env env')
    (format : OutputFormat) :
    (q.resolveWith opener host env).result.map (·.format format) =
      (q'.resolveWith opener' host' env').result.map (·.format format) := by
  have hresult := h.resolveWith_result
  generalize (q.resolveWith opener host env).result = x,
    (q'.resolveWith opener' host' env').result = y at hresult
  cases hresult with
  | error e => rfl
  | ok halike => exact congrArg Except.ok (halike.format_eq format)

/-- Whatever the parameter, the variable, the flag and the assignment say, the same is printed. -/
theorem sample_printed_eq :
    ((sampleRequest "a" "b").resolveWith (.composite []) (sampleHost "s")
        (sampleEnvironment "c")).result.map (·.format .text) =
      ((sampleRequest "x" "y").resolveWith (.composite []) (sampleHost "t")
        (sampleEnvironment "z")).result.map (·.format .text) ∧
    ((sampleRequest "x" "y").resolveWith (.composite []) (sampleHost "t")
        (sampleEnvironment "z")).result.map (·.format .text) =
      .ok ("changeLogFile: changes.xml\ndropFirst: false\ncontexts: \n" ++
        "propertyFileWillOverride: false\npassword: *****\npromptOnNonLocalDatabase: true\n") :=
  ⟨printed_eq (sample "a" "b" "c" "s") .text,by decide +kernel⟩

end DifferInPassword

end LayeredSettings
