import NewsWire.Command.Invocation
import NewsWire.Proofs.Contract
import NewsWire.Proofs.Numeral

/-!
# Two ways to name a request

A request is handed to a run either as a file with its JSON or by an option for each of its parts.
The two are the same invocation (`run_request_file`): they end the same, with the same output and
message, and the network sees the same requests.

On the way through the options every value comes back as it was: a text may hold anything, an equals
sign or a dash in front too, because it is attached to its name, and a number is given by its
digits. On the way through the file the request comes back because the decoder undoes the encoder.
From then on a run looks at nothing but the request and the variables of its configuration and of
its log, and neither the cursor nor the credential of the environment is among them.
-/

namespace NewsWire.Command

open NewsWire.Json NewsWire.Poll NewsWire.Text

/-! ## Options with attached values -/

def assignment (name value : String) : String := "--" ++ name ++ "=" ++ value

theorem splitOption_append {name : List Char} (hname : '=' ∉ name) (value : List Char) :
    splitOption (name ++ '=' :: value) = (String.ofList name, some (String.ofList value)) := by
  have hne : ∀ c ∈ name, (c != '=') = true := by
    intro c hc
    rw [bne_iff_ne]
    rintro rfl
    exact hname hc
  rw [splitOption, List.takeWhile_append_of_pos hne, List.dropWhile_append_of_pos hne]
  simp

/-- An attached value is taken as it is. -/
theorem readArguments_assignment {name value : String} {o o' : Options} (hname : '=' ∉ name.toList)
    (hset : o.set name value = some o') (rest : List String) :
    readArguments o (assignment name value :: rest) = readArguments o' rest := by
  have hlist : (assignment name value).toList =
      '-' :: '-' :: (name.toList ++ '=' :: value.toList) := by
    simp [assignment]
  have hsplit := splitOption_append hname value.toList
  rw [String.ofList_toList, String.ofList_toList] at hsplit
  -- What comes after the two dashes is not empty, so they are not the mark where options end.
  obtain ⟨c, cs, hcs⟩ : ∃ c cs, name.toList ++ '=' :: value.toList = c :: cs :=
    List.exists_cons_of_ne_nil (by simp)
  rw [hcs] at hlist hsplit
  rw [readArguments, hlist]
  simp only [hsplit, hset]

/-! ## The options of a request

A credential may be any text, and one that begins with a dash would be taken for an option if it
stood by itself. Attached to the name of its option it is taken as it is, so every request has
options that say it. -/

theorem attemptBudget?_toString (budget : UInt32) :
    attemptBudget? (toString budget.toNat) = some budget := by
  have hlt : budget.toNat < 2 ^ 32 := budget.toNat_lt
  have hdigits : integer? minInt64 maxInt64 (toString budget.toNat).toList =
      some (budget.toNat : ℤ) := by
    rw [Nat.toString_eq_repr, Nat.toList_repr]
    refine integer?_toDigits ?_ ?_
    · rw [minInt64]
      omega
    · rw [maxInt64]
      omega
  have hfits : (0 ≤ (budget.toNat : ℤ) && (budget.toNat : ℤ) ≤ (maxWord32 : ℤ)) = true := by
    have hmax : maxWord32 = 2 ^ 32 - 1 := rfl
    rw [Bool.and_eq_true, decide_eq_true_iff, decide_eq_true_iff, hmax]
    omega
  rw [attemptBudget?, hdigits, Option.filter_some, if_pos hfits, Option.map_some, Int.toNat_natCast,
    UInt32.ofNat_toNat]

theorem natural?_toString (delay : UInt64) :
    natural? maxWord64 (toString delay.toNat).toList = some delay.toNat := by
  have hlt : delay.toNat < 2 ^ 64 := delay.toNat_lt
  have hmax : maxWord64 = 2 ^ 64 - 1 := rfl
  rw [Nat.toString_eq_repr, Nat.toList_repr]
  exact natural?_toDigits (by omega)

namespace Options

variable {o : Options}

theorem set_cursor (h : o.cursor = .none) (value : String) :
    o.set "cursor" value = some { o with cursor := some value } := by
  rw [set, if_pos rfl, h]
  rfl

theorem set_credential (h : o.credential = .none) (value : String) :
    o.set "credential" value = some { o with credential := some value } := by
  rw [set, if_neg (by decide), if_pos rfl, h]
  rfl

theorem set_attemptBudget (h : o.attemptBudget = .none) (budget : UInt32) :
    o.set "attempt-budget" (toString budget.toNat) =
      some { o with attemptBudget := some budget } := by
  rw [set, if_neg (by decide), if_neg (by decide), if_pos rfl, h, attemptBudget?_toString]
  rfl

theorem set_retryDelayMs (h : o.retryDelayMs = .none) (delay : UInt64) :
    o.set "retry-delay-ms" (toString delay.toNat) =
      some { o with retryDelayMs := some delay } := by
  rw [set, if_neg (by decide), if_neg (by decide), if_neg (by decide), if_pos rfl, h,
    natural?_toString, Option.map_some, UInt64.ofNat_toNat]
  rfl

end Options

/-- The arguments that hand in a request by an option for each of its parts. -/
def assignments (r : Request) : List String :=
  [assignment "credential" r.credential, assignment "cursor" r.cursor] ++
    (r.attemptBudget.map fun n ↦ assignment "attempt-budget" (toString n.toNat)).toList ++
    (r.retryDelayMs.map fun n ↦ assignment "retry-delay-ms" (toString n.toNat)).toList

/-- These options. -/
def Options.ofRequest (r : Request) : Options where
  cursor := some r.cursor
  credential := some r.credential
  attemptBudget := r.attemptBudget
  retryDelayMs := r.retryDelayMs
  requestFile := .none

theorem readArguments_assignments (r : Request) :
    readArguments .none (assignments r) = .options (.ofRequest r) := by
  have hdelay : ∀ o : Options, o.retryDelayMs = none →
      readArguments o
          (r.retryDelayMs.map fun n ↦ assignment "retry-delay-ms" (toString n.toNat)).toList =
        .options { o with retryDelayMs := r.retryDelayMs } := by
    intro o ho
    cases r.retryDelayMs with
    | none =>
      cases o
      cases ho
      rfl
    | some delay =>
      exact readArguments_assignment (by decide) (Options.set_retryDelayMs ho delay) []
  have hbudget : ∀ (o : Options) (rest : List String), o.attemptBudget = none →
      readArguments o
          ((r.attemptBudget.map fun n ↦ assignment "attempt-budget" (toString n.toNat)).toList ++
            rest) =
        readArguments { o with attemptBudget := r.attemptBudget } rest := by
    intro o rest ho
    cases r.attemptBudget with
    | none =>
      cases o
      cases ho
      rfl
    | some budget =>
      exact readArguments_assignment (by decide) (Options.set_attemptBudget ho budget) rest
  rw [assignments, List.append_assoc, List.cons_append, List.cons_append, List.nil_append,
    readArguments_assignment (by decide) (Options.set_credential rfl _),
    readArguments_assignment (by decide) (Options.set_cursor rfl _), hbudget _ _ rfl, hdelay _ rfl]
  rfl

/-! ## What a run looks at -/

theorem ofEnvironment_congr {env env' : Config.Environment}
    (h : ∀ name ∈ Config.variableNames, env.lookup name = env'.lookup name) :
    Config.ofEnvironment env = Config.ofEnvironment env' := by
  have hsetting : ∀ {α : Type} (read : List Char → Option α), ∀ name ∈ Config.variableNames,
      Config.setting env name read = Config.setting env' name read := by
    intro α read name hname
    rw [Config.setting, Config.setting, h name hname]
  rw [Config.ofEnvironment, Config.ofEnvironment, h "WIRE_FEED_URL" (by decide),
    h "WIRE_ITEM_FAILURE" (by decide), hsetting Config.word32? "WIRE_ATTEMPT_BUDGET" (by decide),
    hsetting Config.word64? "WIRE_RETRY_DELAY_MS" (by decide),
    hsetting Config.truth? "WIRE_RETRY_FROM_FIRST_FAILURE" (by decide)]

theorem run_congr {args args' : List String} {env env' : Config.Environment} {files files' : Files}
    {o o' : Options} (hargs : readArguments .none args = .options o)
    (hargs' : readArguments .none args' = .options o')
    (hrequest : requestOf o env files = requestOf o' env' files')
    (hconfig : Config.ofEnvironment env = Config.ofEnvironment env')
    (hlog : logFilter env = logFilter env') (n : Network) (s : Schedule) :
    run n s args env files = run n s args' env' files' := by
  have hplan : plan args env files = plan args' env' files' := by
    simp only [plan, hargs, hargs', ok_bind, hrequest, hconfig, hlog]
  rw [run, run, hplan]

theorem requestOf_requestFile {o : Options} {path : String} (h : o.requestFile = some path)
    (env : Config.Environment) (files : Files) :
    requestOf o env files = requestOf { Options.none with requestFile := some path } env files := by
  rw [requestOf, requestOf, h]

theorem requestOf_ofRequest (r : Request) (env : Config.Environment) (files : Files) :
    requestOf (.ofRequest r) env files = .ok r := rfl

theorem requestOf_file {r : Request} {path : String} {text blanks : List Char}
    (hspells : Spells r.encode text) (hblanks : Blanks blanks) {files : Files}
    (hfile : files path = .ok (String.ofList (text ++ blanks))) (env : Config.Environment) :
    requestOf { Options.none with requestFile := some path } env files = .ok r := by
  have hparse : Request.decoder.parse (text ++ blanks) = .ok r :=
    r.restores_encode.parse hspells hblanks
  rw [requestOf]
  simp only [hfile, String.toList_ofList, hparse]

/-- **A request file and options are the same invocation.** A run with a file that holds the JSON of
a request ends as the run with the options of the request does, and the network sees the same,
whatever cursor and credential the environments of the two have. Other options that can be read make
no difference to a run with a file. -/
theorem run_request_file (r : Request) {text blanks : List Char} (hspells : Spells r.encode text)
    (hblanks : Blanks blanks) {env env' : Config.Environment}
    (henv : ∀ name ∉ ["WIRE_CURSOR", "WIRE_API_KEY"], env.lookup name = env'.lookup name)
    {files : Files} (hfile : files "request.json" = .ok (String.ofList (text ++ blanks)))
    (files' : Files) (n : Network) (s : Schedule) :
    run n s ["--request", "request.json"] env files = run n s (assignments r) env' files' ∧
      ∀ args o, readArguments .none args = .options o → o.requestFile = some "request.json" →
        run n s args env files = run n s ["--request", "request.json"] env files := by
  have hargs : readArguments .none ["--request", "request.json"] =
      .options { Options.none with requestFile := some "request.json" } := by decide
  have hnames : ∀ name ∈ Config.variableNames, name ∉ ["WIRE_CURSOR", "WIRE_API_KEY"] := by decide
  constructor
  · refine run_congr hargs (readArguments_assignments r) ?_ ?_ ?_ n s
    · rw [requestOf_file hspells hblanks hfile, requestOf_ofRequest]
    · exact ofEnvironment_congr fun name hname ↦ henv name (hnames name hname)
    · rw [logFilter, logFilter, henv LogFilter.variableName (by decide)]
  · intro args o ho hfile'
    exact run_congr ho hargs (requestOf_requestFile hfile' env files) rfl rfl n s

/-- A request for the start of the feed, with a credential that looks like an option. -/
def sampleRequest : Request := ⟨"--key=1", "", some 7, some 0⟩

/-- The file with the JSON of that request, and a line feed at its end. -/
def sampleFiles : Files := fun _ ↦ .ok (String.ofList (sampleRequest.encode.compact ++ ['\n']))

theorem run_request_file_sample :
    run .unreachable List.range ["--request", "request.json"] [("WIRE_API_KEY", "another")]
        sampleFiles =
      run .unreachable List.range
        ["--credential=--key=1", "--cursor=", "--attempt-budget=7", "--retry-delay-ms=0"]
        [("WIRE_CURSOR", "elsewhere")] (fun _ ↦ .error "no file") ∧
    run .unreachable List.range ["--cursor", "", "--request=request.json"]
        [("WIRE_API_KEY", "another")] sampleFiles =
      run .unreachable List.range ["--request", "request.json"] [("WIRE_API_KEY", "another")]
        sampleFiles := by
  have henv : ∀ name ∉ ["WIRE_CURSOR", "WIRE_API_KEY"],
      List.lookup name [("WIRE_API_KEY", "another")] =
        List.lookup name [("WIRE_CURSOR", "elsewhere")] := by
    intro name hname
    rw [List.mem_cons, List.mem_singleton, not_or] at hname
    simp only [List.lookup_cons, beq_false_of_ne hname.1, beq_false_of_ne hname.2, List.lookup_nil]
  have hassignments : assignments sampleRequest =
      ["--credential=--key=1", "--cursor=", "--attempt-budget=7", "--retry-delay-ms=0"] := by
    decide +kernel
  have hfile : sampleFiles "request.json" =
      .ok (String.ofList (sampleRequest.encode.compact ++ ['\n'])) := rfl
  obtain ⟨hsame, hothers⟩ := run_request_file sampleRequest sampleRequest.encode.spells_compact
    (List.forall_mem_singleton.mpr rfl) henv hfile (fun _ ↦ .error "no file") .unreachable
    List.range
  rw [hassignments] at hsame
  exact ⟨hsame, hothers ["--cursor", "", "--request=request.json"]
    { Options.none with cursor := some "", requestFile := some "request.json" } (by decide) rfl⟩

end NewsWire.Command
