import LogSearch.CommandLine.Program
import LogSearch.Proofs.Client.FirstRequest
import LogSearch.Proofs.Json.Tokens
import LogSearch.Proofs.Query.Wire
import Mathlib.Control.Monad.Basic

/-!
# What is explained

The arguments are read once, and the query, its description and the request all come from what they were
understood as (`Options.understood`).  So an explanation fails just if the checks in front of a search fail,
and what it shows is the request that the search puts first.  The request is shown with a line for each
field; its body has the same tokens in one line.

The window starts an hour before now unless a start is given.  That hour is taken off in any case, so in
the first hour of the calendar there is no window even with a start, and neither an explanation nor a
search.

## What is here

* `Understood`, `Options.toQuery_eq`, `Options.describe_eq` — what the arguments were understood as;
* `Options.checked`, `Options.plan_eq`, `Options.explanation_eq` — all that is checked, and what comes of it;
* `Program.prepare_of_plan`, `Program.Trace.Refused` — a program that is stopped by the checks;
* `Program.SendsFirst` — the first message of a search;
* `Program.explanation_truth` — all of it together.
-/

set_option autoImplicit false

namespace LogSearch

open Time (Timestamp)

/-! ## Several specifiers -/

/-- The queries of specifiers are read like the specifiers. -/
theorem Query.ofSpecifiers_eq (texts : List String) :
    Query.ofSpecifiers texts = (texts.mapM Specifier.parse).map (List.map Specifier.toQuery) := by
  induction texts with
  | nil => rfl
  | cons text texts ih =>
    rw [ofSpecifiers, ofSpecifier, ih, List.mapM_cons]
    cases Specifier.parse text with
    | error e => rfl
    | ok s => cases texts.mapM Specifier.parse <;> rfl

/-- The first specifier that is wrong decides, whatever follows it. -/
theorem Specifier.mapM_parse_eq_error {before behind : List String} {bad : String} {error : QueryError}
    (hbefore : ∀ text ∈ before, ∃ s, Specifier.parse text = .ok s)
    (hbad : Specifier.parse bad = .error error) :
    (before ++ bad :: behind).mapM Specifier.parse = .error error := by
  induction before with
  | nil =>
    rw [List.nil_append, List.mapM_cons, hbad]
    rfl
  | cons text before ih =>
    obtain ⟨⟨s, hs⟩, hbefore⟩ := List.forall_mem_cons.1 hbefore
    rw [List.cons_append, List.mapM_cons, hs, ih hbefore]
    rfl

/-! ## What the arguments say -/

/-- What the arguments were understood as. -/
inductive Understood
  | flat (specifiers : List Specifier)
  | tree (node : Kql.Node)

/-- The query in a window. -/
def Understood.toQuery (window : TimeWindow) : Understood → Query
  | .flat specifiers => window.restrict .must (specifiers.map Specifier.toQuery)
  | .tree node => window.restrict .filter [Query.ofNode node]

/-- The text of what was understood. -/
def Understood.describe : Understood → String
  | .flat specifiers => String.intercalate "\n" (specifiers.map Specifier.print)
  | .tree node => node.print

namespace Options

variable {options : Options} {now : Timestamp} {window : TimeWindow} {error : ProgramError}

/-- Reads the arguments. -/
def understood (options : Options) : Except ProgramError Understood :=
  if options.legacySpecifiers then
    ((options.query.mapM Specifier.parse).map .flat).mapError .query
  else do
    let text ← options.kqlText
    ((Kql.parse Kql.defaultLimit text).map .tree).mapError .query

/-- **The query comes from what was understood.** -/
theorem toQuery_eq (options : Options) (window : TimeWindow) :
    options.toQuery window = options.understood.map (Understood.toQuery window) := by
  unfold toQuery understood
  split
  · rw [Query.ofSpecifiers_eq]
    cases options.query.mapM Specifier.parse <;> rfl
  · cases options.kqlText with
    | error e => rfl
    | ok text =>
      show Except.mapError _ ((Query.ofKql _ text).map _)
        = Except.map _ (Except.mapError _ (Except.map _ _))
      rw [Query.ofKql]
      cases Kql.parse Kql.defaultLimit text <;> rfl

/-- **The description comes from what was understood.** -/
theorem describe_eq (options : Options) :
    options.describe = options.understood.map Understood.describe := by
  unfold describe understood
  split
  · cases options.query.mapM Specifier.parse <;> rfl
  · cases options.kqlText with
    | error e => rfl
    | ok text =>
      show Except.mapError _ (Except.map _ _) = Except.map _ (Except.mapError _ (Except.map _ _))
      cases Kql.parse Kql.defaultLimit text <;> rfl

theorem exitCode_of_understood (h : options.understood = .error error) : error.exitCode = 2 := by
  have hquery {α : Type} {x : Except QueryError α} (h : x.mapError .query = .error error) :
      error.exitCode = 2 := by
    cases x with
    | error e => cases h; rfl
    | ok a => cases h
  unfold understood at h
  split at h
  · exact hquery h
  · unfold kqlText at h
    split at h
    · exact hquery h
    · cases h
      rfl

/-! ## What is checked -/

theorem window_of_none (h : now.hourBefore? = none) : options.window now = .error .noHourBefore := by
  rw [Options.window, h]
  rfl

theorem exitCode_of_window (hnow : now.hourBefore? ≠ none) (h : options.window now = .error error) :
    error.exitCode = 2 := by
  obtain ⟨hour, hhour⟩ := Option.ne_none_iff_exists'.1 hnow
  simp only [Options.window, hhour, pure, Except.pure, bind, Except.bind] at h
  split at h
  · split at h
    · cases h
      rfl
    · cases h
  · cases h

/-- All that is checked before a search: the window, and what the arguments say. -/
def checked (options : Options) (now : Timestamp) : Except ProgramError (TimeWindow × Understood) :=
  (options.window now).bind fun window ↦ options.understood.map fun found ↦ (window, found)

/-- The request for the first page of a search for what was understood. -/
def asked (options : Options) (checked : TimeWindow × Understood) : SearchRequest :=
  options.request (checked.2.toQuery checked.1)

theorem checked_eq_ok_iff {found : TimeWindow × Understood} : options.checked now = .ok found ↔
    options.window now = .ok found.1 ∧ options.understood = .ok found.2 := by
  rw [checked]
  cases options.window now with
  | error e => simp [Except.bind]
  | ok window => cases options.understood <;> simp [Except.bind, Except.map, Prod.ext_iff]

/-- The window is checked first. -/
theorem checked_eq_error_iff : options.checked now = .error error ↔
    options.window now = .error error ∨
      (∃ window, options.window now = .ok window) ∧ options.understood = .error error := by
  rw [checked]
  cases options.window now with
  | error e => simp [Except.bind]
  | ok window => cases options.understood <;> simp [Except.bind, Except.map]

theorem plan_eq (options : Options) (now : Timestamp) :
    options.plan now = (options.checked now).map fun found ↦ (found.1, options.asked found) := by
  cases hwindow : options.window now with
  | error e => simp only [plan, checked, hwindow, bind, Except.bind, Except.map]
  | ok window =>
    simp only [plan, checked, hwindow, toQuery_eq, bind, Except.bind]
    cases options.understood <;> rfl

theorem explanation_eq (options : Options) (now : Timestamp) :
    options.explanation now = (options.checked now).map fun found ↦
      found.2.describe ++ "\nPOST " ++ (options.asked found).path ++ "\n" ++
        (options.asked found).toJson.pretty ++ "\n" := by
  rw [explanation, plan_eq, describe_eq, checked]
  cases options.window now with
  | error e => rfl
  | ok window => cases options.understood <;> rfl

theorem map_eq_error_iff {ε α β : Type} {x : Except ε α} {f : α → β} {e : ε} :
    x.map f = .error e ↔ x = .error e := by
  cases x <;> simp [Except.map]

/-- **An explanation fails as the search would**, and for the same reason. -/
theorem explanation_eq_error_iff :
    options.explanation now = .error error ↔ options.plan now = .error error := by
  rw [explanation_eq, plan_eq, map_eq_error_iff, map_eq_error_iff]

theorem plan_of_none (h : now.hourBefore? = none) : options.plan now = .error .noHourBefore := by
  rw [plan_eq, map_eq_error_iff, checked_eq_error_iff]
  exact .inl (window_of_none h)

/-- Apart from the clock, only requests that make no sense fail here. -/
theorem exitCode_of_plan (hnow : now.hourBefore? ≠ none) (h : options.plan now = .error error) :
    error.exitCode = 2 := by
  rw [plan_eq, map_eq_error_iff, checked_eq_error_iff] at h
  rcases h with hwindow | ⟨-, hunderstood⟩
  · exact exitCode_of_window hnow hwindow
  · exact exitCode_of_understood hunderstood

/-- The document of a request for the first page has no fractions. -/
theorem whole_toJson_asked (options : Options) (found : TimeWindow × Understood) :
    (options.asked found).toJson.Whole := by
  have hsort : (options.asked found).sort.Whole :=
    .array (by simpa using ⟨Query.whole_single (Query.whole_single (.string "asc")), .string "_seq_no"⟩)
  have hsource : ∀ field ∈ (if options.source.isEmpty then []
      else [("_source", Json.array (options.source.map .string))]), field.2.Whole := by
    split
    · exact List.forall_mem_nil _
    · exact List.forall_mem_singleton.2 (.array (List.forall_mem_map.2 fun name _ ↦ .string name))
  refine .object ?_
  simp only [List.forall_mem_append, List.forall_mem_cons]
  exact ⟨⟨⟨Query.toJson_whole _, hsort, .int _, List.forall_mem_nil _⟩, hsource⟩, List.forall_mem_nil _⟩

/-- **What can be planned can be explained.** -/
theorem explanation_of_plan {request : SearchRequest} (h : options.plan now = .ok (window, request)) :
    request.toJson.Whole ∧ ∃ description, options.describe = .ok description ∧
      options.explanation now = .ok (description ++ "\nPOST " ++ request.path ++ "\n" ++
        request.toJson.pretty ++ "\n") := by
  rw [plan_eq] at h
  rw [explanation_eq, describe_eq]
  cases hchecked : options.checked now with
  | error e => rw [hchecked] at h; cases h
  | ok found =>
    rw [hchecked] at h
    cases h
    refine ⟨whole_toJson_asked options found, found.2.describe, ?_, rfl⟩
    rw [(checked_eq_ok_iff.1 hchecked).2]
    rfl

/-- Of several specifiers the first that is wrong decides. -/
theorem explanation_of_specifier {before behind : List String} {bad : String} {fault : QueryError}
    (hlegacy : options.legacySpecifiers = true) (hwindow : options.window now = .ok window)
    (hquery : options.query = before ++ bad :: behind)
    (hbefore : ∀ text ∈ before, ∃ s, Specifier.parse text = .ok s)
    (hbad : Specifier.parse bad = .error fault) :
    options.explanation now = .error (.query fault) := by
  have hunderstood : options.understood = .error (.query fault) := by
    rw [understood, if_pos hlegacy, hquery, Specifier.mapM_parse_eq_error hbefore hbad]
    rfl
  rw [explanation_eq, map_eq_error_iff, checked_eq_error_iff]
  exact .inr ⟨⟨window, hwindow⟩, hunderstood⟩

end Options

/-! ## What the program does -/

namespace Program

variable {options : Options} {now : Timestamp} {lookup : String → Option String} {error : ProgramError}

/-- The program came to nothing: it has exit code two, has written nothing to its output, and has sent no
message. -/
def Trace.Refused (trace : Trace) : Prop :=
  trace.exitCode = 2 ∧ trace.output = "" ∧ trace.received = []

/-- What fails the checks fails before anything is done, explained or not. -/
theorem prepare_of_plan (h : options.plan now = .error error) :
    prepare lookup now options = .error error := by
  rw [prepare]
  split
  · rw [Options.explanation_eq_error_iff.2 h]
    rfl
  · rw [h]
    rfl

theorem rehearse_of_prepare {describe : TransportFault → String} {arguments : List String}
    {replies : List HttpReply} (hparse : Options.parse arguments = .ok options)
    (h : prepare lookup now options = .error error) (hcode : error.exitCode = 2) :
    (rehearse describe arguments lookup now replies).Refused := by
  rw [rehearse, hparse]
  dsimp only
  rw [h]
  exact ⟨hcode, rfl, rfl⟩

theorem rehearse_of_explanation {describe : TransportFault → String} {arguments : List String}
    {replies : List HttpReply} {text : String} (hparse : Options.parse arguments = .ok options)
    (hexplain : options.explain = true) (h : options.explanation now = .ok text) :
    rehearse describe arguments lookup now replies = ⟨0, text, [], []⟩ := by
  rw [rehearse, hparse]
  dsimp only
  rw [prepare, if_pos hexplain, h]
  rfl

/-- A search that is prepared puts the request that was planned. -/
theorem plan_of_prepare {client : Client} {request : SearchRequest} {opening : LogEntry}
    (h : prepare lookup now options = .ok (.search client request opening)) :
    ∃ window, options.plan now = .ok (window, request) := by
  rw [prepare] at h
  split at h
  · cases hexplanation : options.explanation now with
    | error e => rw [hexplanation] at h; cases h
    | ok text => rw [hexplanation] at h; cases h
  · cases hplan : options.plan now with
    | error e => rw [hplan] at h; cases h
    | ok planned =>
      obtain ⟨window, planned⟩ := planned
      rw [hplan] at h
      cases hclient : (connect lookup).mapError ProgramError.client with
      | error e =>
        simp only [bind, Except.bind, hclient] at h
        cases h
      | ok client' =>
        simp only [bind, Except.bind, hclient, pure, Except.pure, Except.ok.injEq, Task.search.injEq] at h
        obtain ⟨-, rfl, -⟩ := h
        exact ⟨window, rfl⟩

/-- The message that a stream puts its first request as has these tokens, if there is such a message. -/
def SendsFirst (client : Client) (request : SearchRequest) (json : String) : Prop :=
  ∀ {σ ω : Type} (carrier : Carrier σ) (out : Sink ω) (rounds : Nat) (peer : σ) (sink : ω),
    let world := World.booked (client.backend carrier) out
    let book := ((Stream.start request).run world (rounds + 1) (.start peer sink)).2
    book.requests.head? = some request ∧
      ∀ message, client.request? request = some message → Json.SameTokens json.toList message.body.toList

theorem sendsFirst_pretty (client : Client) {request : SearchRequest} (h : request.toJson.Whole) :
    SendsFirst client request request.toJson.pretty := by
  intro σ ω carrier out rounds peer sink
  refine ⟨Stream.opens_run _ _ _ _ _ _, fun message hmessage ↦ ?_⟩
  have hbody : message.body = request.toJson.compact := by
    unfold Client.request? at hmessage
    split at hmessage
    · cases hmessage
      rfl
    · cases hmessage
  rw [hbody]
  exact Json.sameTokens_pretty_compact h

/-- **An explanation tells the truth**, all of it or nothing.  It fails just if the checks in front of a
search fail, and then the program ends with no output and no message, explained or not.  Otherwise it is the
description, the place that the request for the first page is sent to, and a text with the tokens of its
body.  Of several specifiers the first that is wrong decides.

An hour before now must be in the calendar, even if a start is given: otherwise there is no window, no
explanation and no search. -/
theorem explanation_truth (options : Options) (now : Timestamp) :
    (now.hourBefore? = none →
      options.plan now = .error .noHourBefore ∧ options.explanation now = .error .noHourBefore) ∧
    (now.hourBefore? ≠ none →
      (∀ error, options.explanation now = .error error ↔ options.plan now = .error error) ∧
      (∀ error, options.plan now = .error error → error.exitCode = 2 ∧
        ∀ explain lookup, prepare lookup now { options with explain } = .error error ∧
          ∀ describe arguments replies, Options.parse arguments = .ok { options with explain } →
            (rehearse describe arguments lookup now replies).Refused) ∧
      (∀ window request, options.plan now = .ok (window, request) →
        ∃ description json text, options.describe = .ok description ∧
          text = description ++ "\nPOST " ++ request.path ++ "\n" ++ json ++ "\n" ∧
          options.explanation now = .ok text ∧
          (∀ describe arguments lookup replies,
            Options.parse arguments = .ok { options with explain := true } →
              rehearse describe arguments lookup now replies = ⟨0, text, [], []⟩) ∧
          ∀ lookup client asked opening,
            prepare lookup now { options with explain := false } = .ok (.search client asked opening) →
              asked = request ∧ SendsFirst client asked json) ∧
      ∀ window before bad behind fault, options.legacySpecifiers = true →
        options.window now = .ok window → options.query = before ++ bad :: behind →
        (∀ text ∈ before, ∃ s, Specifier.parse text = .ok s) → Specifier.parse bad = .error fault →
        options.explanation now = .error (.query fault)) := by
  refine ⟨fun hnow ↦ ?_, fun hnow ↦ ⟨fun error ↦ Options.explanation_eq_error_iff, ?_, ?_, ?_⟩⟩
  · have hplan := @Options.plan_of_none options now hnow
    exact ⟨hplan, Options.explanation_eq_error_iff.2 hplan⟩
  · intro error hplan
    have hcode := Options.exitCode_of_plan hnow hplan
    refine ⟨hcode, fun explain lookup ↦ ?_⟩
    have hprepare := @prepare_of_plan { options with explain } now lookup error hplan
    exact ⟨hprepare, fun describe arguments replies hparse ↦ rehearse_of_prepare hparse hprepare hcode⟩
  · intro window request hplan
    obtain ⟨hwhole, description, hdescribe, hexplanation⟩ := Options.explanation_of_plan hplan
    refine ⟨description, request.toJson.pretty, _, hdescribe, rfl, hexplanation, ?_, ?_⟩
    · intro describe arguments lookup replies hparse
      exact rehearse_of_explanation hparse rfl hexplanation
    · intro lookup client asked opening hprepare
      obtain ⟨window', hplan'⟩ := plan_of_prepare hprepare
      have hsame : options.plan now = .ok (window', asked) := hplan'
      rw [hplan] at hsame
      cases hsame
      exact ⟨rfl, sendsFirst_pretty client hwhole⟩
  · intro window before bad behind fault hlegacy hwindow hquery hbefore hbad
    exact Options.explanation_of_specifier hlegacy hwindow hquery hbefore hbad

/-- A query at noon, a start in the first hour of the calendar, and three specifiers of which the second is
wrong. -/
theorem explanation_truth_samples :
    let noon : Timestamp :=
      ⟨⟨2022, 2, 27, by decide⟩, 12, 0, 0, 0, by decide, by decide, by decide, by decide⟩
    let early : Timestamp :=
      ⟨⟨-262143, 1, 1, by decide⟩, 0, 30, 0, 0, by decide, by decide, by decide, by decide⟩
    let query : Options :=
      ⟨["level:error"], 2000, "filebeat-*", none, none, [], "@timestamp", false, true, false⟩
    let given : Options := { query with start := some noon }
    let flat : Options := { query with query := ["a=b", "=", "~"], legacySpecifiers := true }
    let run (arguments : List String) := rehearse (fun _ ↦ "") arguments (fun _ ↦ none) noon []
    given.plan early = .error .noHourBefore ∧ given.explanation early = .error .noHourBefore ∧
      (∃ window request json, query.plan noon = .ok (window, request) ∧
        run ["level:error", "--explain"]
          = ⟨0, "level:error" ++ "\nPOST " ++ request.path ++ "\n" ++ json ++ "\n", [], []⟩) ∧
      flat.explanation noon = .error (.query (.invalidSpecifier "=" ["="])) ∧
      (run ["--explain", "--legacy-specifiers", "a=b", "=", "~"]).Refused := by
  intro noon early query given flat run
  have hearly : early.hourBefore? = none := by decide +kernel
  have hnoon : noon.hourBefore? ≠ none := by decide +kernel
  obtain ⟨hplan, hexplanation⟩ := (explanation_truth given early).1 hearly
  refine ⟨hplan, hexplanation, ?_, ?_⟩
  · obtain ⟨-, -, htold, -⟩ := (explanation_truth query noon).2 hnoon
    cases hquery : query.plan noon with
    | error error =>
      have hfine : (query.plan noon).isOk = true := by decide +kernel
      rw [hquery] at hfine
      cases hfine
    | ok planned =>
      obtain ⟨window, request⟩ := planned
      obtain ⟨description, json, text, hdescribe, rfl, -, hrun, -⟩ := htold window request hquery
      have hlevel : query.describe = .ok "level:error" := by decide +kernel
      obtain rfl := Except.ok.inj (hlevel.symm.trans hdescribe)
      exact ⟨window, request, json, rfl, hrun _ _ _ _ (by decide +kernel)⟩
  · obtain ⟨hsame, hrefused, -, hflat⟩ := (explanation_truth flat noon).2 hnoon
    cases hwindow : flat.window noon with
    | error error =>
      have hfine : (flat.window noon).isOk = true := by decide +kernel
      rw [hwindow] at hfine
      cases hfine
    | ok window =>
      have hbefore : ∀ text ∈ ["a=b"], ∃ s, Specifier.parse text = .ok s :=
        List.forall_mem_singleton.2 ⟨⟨"a", .equals, some "b"⟩, by decide +kernel⟩
      have hbad : Specifier.parse "=" = .error (.invalidSpecifier "=" ["="]) := by decide +kernel
      have hfault := hflat window ["a=b"] "=" ["~"] _ rfl hwindow rfl hbefore hbad
      exact ⟨hfault, ((hrefused _ ((hsame _).1 hfault)).2 true _).2 _ _ _ (by decide +kernel)⟩

end Program

end LogSearch
