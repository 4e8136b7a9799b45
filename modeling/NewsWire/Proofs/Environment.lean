import NewsWire.Poll.Config
import NewsWire.Proofs.Except
import NewsWire.Proofs.Numeral
import NewsWire.Url.Parse

/-!
# The configuration of an environment

Each of five variables changes one field of the default configuration. What the value of a variable
means is said without its reader (`Variable.Means`): a decimal numeral that fits, a truth value, the
name of a policy, each with blanks around it. The reader of a variable is this relation
(`Variable.read?_eq_some_iff`), so a configuration is had exactly when every variable that is set
means something, and its fields are then what the variables mean and what the default has
(`ofEnvironment_iff`). A fault is about a variable that is set and means nothing.

The start of the feed is the exception: any text is taken for it, and so is one that is no URL
(`ofEnvironment_of_relative_start`).
-/

namespace NewsWire.Poll.Config

open NewsWire.Text

/-! ## Variables

Five variables that are read one after another would be five proofs of the same. They are made the
values of a type, with a dependent type of what each is read as, and all that is said of a variable
is said once for all of them. -/

/-- The variables that a configuration is taken from. -/
inductive Variable where
  | feedUrl
  | attemptBudget
  | retryDelay
  | retryMode
  | itemFailure
  deriving DecidableEq

namespace Variable

def name : Variable → String
  | feedUrl => "WIRE_FEED_URL"
  | attemptBudget => "WIRE_ATTEMPT_BUDGET"
  | retryDelay => "WIRE_RETRY_DELAY_MS"
  | retryMode => "WIRE_RETRY_FROM_FIRST_FAILURE"
  | itemFailure => "WIRE_ITEM_FAILURE"

/-- What a variable is read as. -/
abbrev Value : Variable → Type
  | feedUrl => String
  | attemptBudget => UInt32
  | retryDelay => UInt64
  | retryMode => RetryMode
  | itemFailure => ItemFailure

/-- The field that a variable changes. -/
def field : (v : Variable) → Config → v.Value
  | feedUrl, c => c.source.startUrl
  | attemptBudget, c => c.attemptBudget
  | retryDelay, c => c.retryDelayMs
  | retryMode, c => c.retryMode
  | itemFailure, c => c.itemFailure

/-- The name by which a text calls a policy: without the blanks around it, and in lower case. -/
def lowered (raw : String) : String := String.ofList ((trim raw.toList).map Char.toLower)

/-- What the text of a variable means. -/
def Means : (v : Variable) → String → v.Value → Prop
  | feedUrl, raw, url => raw = url
  | attemptBudget, raw, budget => Numeral False budget.toNat (trim raw.toList)
  | retryDelay, raw, delayMs => Numeral False delayMs.toNat (trim raw.toList)
  | retryMode, raw, .literal => trim raw.toList = "false".toList
  | retryMode, raw, .fromFirstFailure => trim raw.toList = "true".toList
  | itemFailure, raw, .drop => lowered raw = "drop"
  | itemFailure, raw, .propagate => lowered raw = "propagate"

/-- The text of a variable means something. -/
def Accepts (v : Variable) (raw : String) : Prop := ∃ a, v.Means raw a

theorem accepts_feedUrl (raw : String) : feedUrl.Accepts raw := ⟨raw, rfl⟩

/-- The fault of a text that means nothing. -/
def fault : Variable → String → ConfigFault
  | itemFailure, raw => .unknownItemFailure (lowered raw)
  | v, raw => .badVariable v.name raw

/-- What an environment makes of the field of a variable: what the default has where the variable is
unset, and what its text means where it is set. -/
def Fixes (v : Variable) (env : Environment) (a : v.Value) : Prop :=
  (env.lookup v.name).elim (a = v.field default) fun raw ↦ v.Means raw a

/-! ## Readers -/

def read? : (v : Variable) → String → Option v.Value
  | feedUrl, raw => some raw
  | attemptBudget, raw => word32? (trim raw.toList)
  | retryDelay, raw => word64? (trim raw.toList)
  | retryMode, raw => (truth? (trim raw.toList)).map fun fromFirst ↦
      if fromFirst then .fromFirstFailure else .literal
  | itemFailure, raw => (ItemFailure.ofText raw).toOption

theorem word32?_eq_some_iff {cs : List Char} {w : UInt32} :
    word32? cs = some w ↔ Numeral False w.toNat cs := by
  rw [word32?, Option.map_eq_some_iff]
  constructor
  · rintro ⟨n, hn, rfl⟩
    obtain ⟨hnumeral, hmax⟩ := natural?_eq_some_iff.mp hn
    rwa [UInt32.toNat_ofNat_of_lt' (Nat.lt_succ_of_le hmax)]
  · intro hnumeral
    exact ⟨w.toNat, natural?_eq_some_iff.mpr ⟨hnumeral, Nat.le_of_lt_succ w.toNat_lt⟩,
      UInt32.ofNat_toNat⟩

theorem word64?_eq_some_iff {cs : List Char} {w : UInt64} :
    word64? cs = some w ↔ Numeral False w.toNat cs := by
  rw [word64?, Option.map_eq_some_iff]
  constructor
  · rintro ⟨n, hn, rfl⟩
    obtain ⟨hnumeral, hmax⟩ := natural?_eq_some_iff.mp hn
    rwa [UInt64.toNat_ofNat_of_lt' (Nat.lt_succ_of_le hmax)]
  · intro hnumeral
    exact ⟨w.toNat, natural?_eq_some_iff.mpr ⟨hnumeral, Nat.le_of_lt_succ w.toNat_lt⟩,
      UInt64.ofNat_toNat⟩

theorem truth?_eq_some_iff {cs : List Char} {b : Bool} :
    truth? cs = some b ↔ cs = (if b then "true" else "false").toList := by
  have hne : "false".toList ≠ "true".toList := by decide
  rw [truth?]
  split
  · next h =>
    rw [h, Option.some_inj]
    cases b
    · exact iff_of_false nofun hne.symm
    · exact iff_of_true rfl rfl
  · next h =>
    rw [Option.ite_none_right_eq_some, Option.some_inj]
    cases b
    · exact and_iff_left rfl
    · exact iff_of_false nofun h

theorem ofText_eq (raw : String) :
    ItemFailure.ofText raw =
      if lowered raw = "drop" then .ok .drop
      else if lowered raw = "propagate" then .ok .propagate
      else .error (.unknownItemFailure (lowered raw)) := rfl

/-- Each variable is read as what its text means. -/
theorem read?_eq_some_iff (v : Variable) {raw : String} {a : v.Value} :
    v.read? raw = some a ↔ v.Means raw a := by
  cases v with
  | feedUrl => exact Option.some_inj
  | attemptBudget => exact word32?_eq_some_iff
  | retryDelay => exact word64?_eq_some_iff
  | retryMode =>
    simp only [read?, Option.map_eq_some_iff, truth?_eq_some_iff]
    cases a <;> simp [Means]
  | itemFailure =>
    rw [read?, ofText_eq]
    split
    · next h => cases a <;> simp [Means, h, Except.toOption]
    · next h =>
      split
      · next h' => cases a <;> simp [Means, h', Except.toOption]
      · next h' => cases a <;> simp [Means, h, h', Except.toOption]

def reading (v : Variable) (env : Environment) : Except ConfigFault v.Value :=
  match env.lookup v.name with
  | none => .ok (v.field default)
  | some raw =>
    match v.read? raw with
    | some a => .ok a
    | none => .error (v.fault raw)

variable {env : Environment} {f : ConfigFault}

theorem reading_eq_ok_iff (v : Variable) {a : v.Value} :
    v.reading env = .ok a ↔ v.Fixes env a := by
  rw [reading, Fixes]
  cases env.lookup v.name with
  | none => simp [eq_comm]
  | some raw =>
    rw [Option.elim_some, ← v.read?_eq_some_iff]
    cases hread : v.read? raw <;> simp [hread]

theorem reading_eq_error_iff (v : Variable) :
    v.reading env = .error f ↔
      ∃ raw, env.lookup v.name = some raw ∧ ¬v.Accepts raw ∧ f = v.fault raw := by
  rw [reading]
  cases env.lookup v.name with
  | none => simp
  | some raw =>
    simp only [Accepts, ← v.read?_eq_some_iff]
    cases hread : v.read? raw <;> simp [hread, eq_comm]

theorem reading_feedUrl (env : Environment) :
    feedUrl.reading env = .ok ((env.lookup "WIRE_FEED_URL").getD default.source.startUrl) := by
  rw [reading_eq_ok_iff, Fixes, name]
  cases env.lookup "WIRE_FEED_URL" <;> rfl

theorem reading_of_setting {α : Type} {v : Variable} {read : List Char → Option α}
    {give : Option α → v.Value}
    (hread : ∀ raw, v.read? raw = (read (trim raw.toList)).map fun a ↦ give (some a))
    (hgive : give none = v.field default) (hfault : ∀ raw, v.fault raw = .badVariable v.name raw)
    (env : Environment) : v.reading env = (setting env v.name read).map give := by
  rw [reading, setting]
  cases env.lookup v.name with
  | none => simp only [Except.map, hgive]
  | some raw =>
    simp only [hread, hfault]
    cases read (trim raw.toList) <;> rfl

theorem reading_attemptBudget (env : Environment) :
    attemptBudget.reading env =
      (setting env "WIRE_ATTEMPT_BUDGET" word32?).map (·.getD default.attemptBudget) :=
  reading_of_setting (by simp [read?]) rfl (fun _ ↦ rfl) env

theorem reading_retryDelay (env : Environment) :
    retryDelay.reading env =
      (setting env "WIRE_RETRY_DELAY_MS" word64?).map (·.getD default.retryDelayMs) :=
  reading_of_setting (by simp [read?]) rfl (fun _ ↦ rfl) env

theorem reading_retryMode (env : Environment) :
    retryMode.reading env =
      (setting env "WIRE_RETRY_FROM_FIRST_FAILURE" truth?).map fun fromFirst ↦
        if fromFirst = some true then .fromFirstFailure else .literal :=
  reading_of_setting (by simp [read?]) rfl (fun _ ↦ rfl) env

theorem reading_itemFailure (env : Environment) :
    itemFailure.reading env =
      (env.lookup "WIRE_ITEM_FAILURE").elim (.ok default.itemFailure) ItemFailure.ofText := by
  rw [reading, name]
  cases env.lookup "WIRE_ITEM_FAILURE" with
  | none => rfl
  | some raw =>
    simp only [Option.elim_some, read?, ofText_eq]
    by_cases hdrop : lowered raw = "drop"
    · simp only [if_pos hdrop, Except.toOption]
    · by_cases hpropagate : lowered raw = "propagate"
      · simp only [if_neg hdrop, if_pos hpropagate, Except.toOption]
      · simp only [if_neg hdrop, if_neg hpropagate, Except.toOption, fault]

end Variable

/-! ## Configurations -/

variable {env : Environment} {c : Config}

theorem ofEnvironment_eq (env : Environment) :
    ofEnvironment env = (do
      let startUrl ← Variable.feedUrl.reading env
      let attemptBudget ← Variable.attemptBudget.reading env
      let retryDelayMs ← Variable.retryDelay.reading env
      let retryMode ← Variable.retryMode.reading env
      let itemFailure ← Variable.itemFailure.reading env
      return { default with
        source := { default.source with startUrl }, attemptBudget, retryDelayMs, retryMode,
        itemFailure }) := by
  rw [Variable.reading_feedUrl, Variable.reading_attemptBudget, Variable.reading_retryDelay,
    Variable.reading_retryMode, Variable.reading_itemFailure, ofEnvironment]
  rcases setting env "WIRE_ATTEMPT_BUDGET" word32? with fault | budget
  · rfl
  rcases setting env "WIRE_RETRY_DELAY_MS" word64? with fault | delayMs
  · rfl
  rcases setting env "WIRE_RETRY_FROM_FIRST_FAILURE" truth? with fault | fromFirst
  · rfl
  -- Nothing can go wrong up to here, so the two differ in how the fields are put in only.
  cases env.lookup "WIRE_ITEM_FAILURE" with
  | none => rcases fromFirst with _ | _ | _ <;> cases env.lookup "WIRE_FEED_URL" <;> rfl
  | some text =>
    dsimp only [Option.elim_some]
    rcases ItemFailure.ofText text with fault | itemFailure
    · rfl
    · rcases fromFirst with _ | _ | _ <;> cases env.lookup "WIRE_FEED_URL" <;> rfl

/-! ## What an environment asks for

`AskedBy` is the configuration as a reader of the documentation would state it, field by field and
without an order. The order in which the variables are looked at shows only in the fault that is
reported where several of them mean nothing. -/

/-- The configuration is the one that the environment asks for: the fields of the variables are what
these mean, and all else is as in the default. -/
structure AskedBy (env : Environment) (c : Config) : Prop where
  fixes : ∀ v : Variable, v.Fixes env (v.field c)
  userAgent : c.userAgent = default.userAgent
  timeoutSeconds : c.timeoutSeconds = default.timeoutSeconds
  source : { c.source with startUrl := default.source.startUrl } = default.source

theorem ofEnvironment_eq_ok_iff : ofEnvironment env = .ok c ↔ c.AskedBy env := by
  simp only [ofEnvironment_eq, bind_eq_ok_iff]
  constructor
  · rintro ⟨startUrl, hstart, budget, hbudget, delayMs, hdelay, mode, hmode, policy, hpolicy, h⟩
    obtain rfl := Except.ok.inj h
    refine ⟨fun v ↦ v.reading_eq_ok_iff.mp ?_, rfl, rfl, rfl⟩
    cases v with
    | feedUrl => exact hstart
    | attemptBudget => exact hbudget
    | retryDelay => exact hdelay
    | retryMode => exact hmode
    | itemFailure => exact hpolicy
  · intro h
    have hreading (v : Variable) : v.reading env = .ok (v.field c) :=
      v.reading_eq_ok_iff.mpr (h.fixes v)
    refine ⟨_, hreading .feedUrl, _, hreading .attemptBudget, _, hreading .retryDelay,
      _, hreading .retryMode, _, hreading .itemFailure, congrArg Except.ok ?_⟩
    rw [← h.userAgent, ← h.timeoutSeconds, ← h.source]
    rfl

/-- A fault is about a variable that is set and means nothing. -/
theorem exists_of_ofEnvironment_eq_error {f : ConfigFault} (h : ofEnvironment env = .error f) :
    ∃ (v : Variable) (raw : String),
      env.lookup v.name = some raw ∧ ¬v.Accepts raw ∧ f = v.fault raw := by
  have hreading : ∃ v : Variable, v.reading env = .error f := by
    simp only [ofEnvironment_eq, bind_eq_error_iff] at h
    rcases h with h | ⟨_, -, h | ⟨_, -, h | ⟨_, -, h | ⟨_, -, h | ⟨_, -, h⟩⟩⟩⟩⟩
    · exact ⟨.feedUrl, h⟩
    · exact ⟨.attemptBudget, h⟩
    · exact ⟨.retryDelay, h⟩
    · exact ⟨.retryMode, h⟩
    · exact ⟨.itemFailure, h⟩
    · cases h
  obtain ⟨v, hv⟩ := hreading
  exact ⟨v, v.reading_eq_error_iff.mp hv⟩

/-- **Configurations of environments.** An environment has a configuration exactly when each of its
variables means something, but for the start of the feed, which may be any text. The configuration
is the one that the environment asks for, and a request changes its budget and its delay only. Where
there is none, the fault names a variable that means nothing and repeats its text. -/
theorem ofEnvironment_iff (env : Environment) :
    ((∃ c, ofEnvironment env = .ok c) ↔
      ∀ v ≠ Variable.feedUrl, ∀ raw, env.lookup v.name = some raw → v.Accepts raw) ∧
    (∀ c, ofEnvironment env = .ok c ↔ c.AskedBy env) ∧
    (∀ f, ofEnvironment env = .error f → ∃ v ≠ Variable.feedUrl, ∃ raw,
      env.lookup v.name = some raw ∧ ¬v.Accepts raw ∧ f = v.fault raw) ∧
    ∀ (c : Config) (r : Request),
      (c.applying r).attemptBudget = r.attemptBudget.getD c.attemptBudget ∧
      (c.applying r).retryDelayMs = r.retryDelayMs.getD c.retryDelayMs ∧
      { c.applying r with
          attemptBudget := c.attemptBudget, retryDelayMs := c.retryDelayMs } = c := by
  have hfault {f : ConfigFault} (h : ofEnvironment env = .error f) :
      ∃ v ≠ Variable.feedUrl, ∃ raw,
        env.lookup v.name = some raw ∧ ¬v.Accepts raw ∧ f = v.fault raw := by
    obtain ⟨v, raw, hraw, hnot, hf⟩ := exists_of_ofEnvironment_eq_error h
    refine ⟨v, ?_, raw, hraw, hnot, hf⟩
    rintro rfl
    exact hnot (Variable.accepts_feedUrl raw)
  refine ⟨⟨?_, ?_⟩, fun c ↦ ofEnvironment_eq_ok_iff, fun f ↦ hfault, fun c r ↦ ⟨rfl, rfl, rfl⟩⟩
  · rintro ⟨c, hc⟩ v - raw hraw
    have hfixes := (ofEnvironment_eq_ok_iff.mp hc).fixes v
    rw [Variable.Fixes, hraw, Option.elim_some] at hfixes
    exact ⟨v.field c, hfixes⟩
  · intro haccepts
    cases hresult : ofEnvironment env with
    | ok c => exact ⟨c, rfl⟩
    | error f =>
      obtain ⟨v, hv, raw, hraw, hnot, -⟩ := hfault hresult
      exact absurd (haccepts v hv raw hraw) hnot

/-- A text that is no URL is taken for the start of the feed. -/
theorem ofEnvironment_of_relative_start :
    Url.ofString "not a url" = .error .relative ∧
      ∃ c, ofEnvironment [("WIRE_FEED_URL", "not a url")] = .ok c ∧
        c.source.startUrl = "not a url" :=
  ⟨rfl, _, rfl, rfl⟩

end NewsWire.Poll.Config
