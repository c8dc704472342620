import LogShipping.Uplink.Settings
import Mathlib.Data.List.Induction
import Mathlib.Data.Option.Basic

namespace LogShipping.Uplink

inductive Topic where
  | host
  | port
  | capacity
  | longRetry
  | shortRetry
  | connectTimeout
  | warnInterval
  | lookup
  deriving DecidableEq

def Choice.topic : Choice → Topic
  | host _ => .host
  | port _ => .port
  | capacity _ => .capacity
  | longRetry _ => .longRetry
  | shortRetry _ => .shortRetry
  | connectTimeout _ => .connectTimeout
  | warnInterval _ => .warnInterval
  | lookup _ => .lookup

def Choice.number? : Choice → Option Nat
  | host _ => none
  | port number => some number.toNat
  | capacity count => some count
  | longRetry millis => some millis
  | shortRetry millis => some millis
  | connectTimeout millis => some millis
  | warnInterval millis => some millis
  | lookup _ => none

def Choice.isZero (choice : Choice) : Bool :=
  choice.number? = some 0

namespace Topic

def name : Topic → String
  | host => "host"
  | port => "port"
  | capacity => "capacity"
  | longRetry => "long_retry_delay_ms"
  | shortRetry => "short_retry_delay_ms"
  | connectTimeout => "connect_timeout_ms"
  | warnInterval => "warn_interval_ms"
  | lookup => "resolver"

def positive : List Topic :=
  [port, capacity, longRetry, shortRetry, connectTimeout, warnInterval]

def checked : List Topic :=
  host :: positive

/-- Whether it is wrong that this was chosen last about the topic, or nothing at all. -/
def offends : Topic → Option Choice → Bool
  | host, some (.host name) => Text.isBlank name
  | host, _ => true
  | _, choice => choice.any Choice.isZero

def fault : Topic → Misconfiguration
  | host => .blankHost
  | topic => .zero topic.name

def complaint : Topic → String
  | host => "graylog host must not be empty"
  | topic => topic.name ++ " must be greater than zero"

private theorem message_fault {topic : Topic} :
    (SetupError.invalid topic.fault).message =
      "invalid handler configuration: " ++ topic.complaint := by
  cases topic <;> rfl

private theorem offends_of_ne_host {topic : Topic} (h : topic ≠ host) (choice : Option Choice) :
    topic.offends choice = choice.any Choice.isZero := by
  cases topic with
  | host => exact absurd rfl h
  | _ => rfl

private theorem fault_of_ne_host {topic : Topic} (h : topic ≠ host) :
    topic.fault = .zero topic.name := by
  cases topic with
  | host => exact absurd rfl h
  | _ => rfl

theorem host_offends_eq_false_iff {choice : Option Choice} :
    host.offends choice = false ↔
      ∃ name, choice = some (.host name) ∧ ∃ c ∈ name.toList, Text.isBlankChar c = false := by
  cases choice with
  | none => simp [offends]
  | some choice => cases choice <;> simp [offends, Text.isBlank]

private theorem ne_host_of_positive {topic : Topic} (h : topic ∈ positive) : topic ≠ host := by
  rintro rfl
  exact absurd h (by decide)

end Topic

def lastAbout (topic : Topic) (choices : List Choice) : Option Choice :=
  (choices.filter fun choice => choice.topic = topic).getLast?

def Settings.Has (s : Settings) : Choice → Prop
  | .host name => s.host = name
  | .port number => s.port = number
  | .capacity count => s.maxWaiting = count
  | .longRetry millis => s.longRetry = .ofMillis millis
  | .shortRetry millis => s.shortRetry = .ofMillis millis
  | .connectTimeout millis => s.connectTimeout = .ofMillis millis
  | .warnInterval millis => s.warnInterval = .ofMillis millis
  | .lookup lookup => s.lookup = lookup

/-- The settings are alike in what a choice about the topic sets. -/
def Settings.AgreeOn (s t : Settings) : Topic → Prop
  | .host => s.host = t.host
  | .port => s.port = t.port
  | .capacity => s.maxWaiting = t.maxWaiting
  | .longRetry => s.longRetry = t.longRetry
  | .shortRetry => s.shortRetry = t.shortRetry
  | .connectTimeout => s.connectTimeout = t.connectTimeout
  | .warnInterval => s.warnInterval = t.warnInterval
  | .lookup => s.lookup = t.lookup

private theorem topic_of_lastAbout {topic : Topic} {choices : List Choice} {choice : Choice}
    (h : lastAbout topic choices = some choice) : choice.topic = topic :=
  of_decide_eq_true (List.mem_filter.mp (List.mem_of_getLast? h)).2

private theorem lastAbout_concat (topic : Topic) (choices : List Choice) (choice : Choice) :
    lastAbout topic (choices ++ [choice]) =
      if choice.topic = topic then some choice else lastAbout topic choices := by
  by_cases h : choice.topic = topic <;> simp [lastAbout, List.filter_append, h]

namespace Options

def of (choices : List Choice) : Options :=
  choices.foldl choose unset

def get? (o : Options) : Topic → Option Choice
  | .host => o.host.map .host
  | .port => o.port.map .port
  | .capacity => o.capacity.map .capacity
  | .longRetry => o.longRetry.map .longRetry
  | .shortRetry => o.shortRetry.map .shortRetry
  | .connectTimeout => o.connectTimeout.map .connectTimeout
  | .warnInterval => o.warnInterval.map .warnInterval
  | .lookup => o.lookup.map .lookup

private theorem get?_choose (o : Options) (choice : Choice) (topic : Topic) :
    (o.choose choice).get? topic =
      if choice.topic = topic then some choice else o.get? topic := by
  cases choice <;> cases topic <;> rfl

private theorem get?_of (choices : List Choice) (topic : Topic) :
    (of choices).get? topic = lastAbout topic choices := by
  induction choices using List.reverseRecOn with
  | nil => cases topic <;> rfl
  | append_singleton choices choice ih =>
      have hlast : of (choices ++ [choice]) = (of choices).choose choice := by simp [of]
      rw [hlast, get?_choose, lastAbout_concat, ih]

private theorem eq_of_get? {o o' : Options} (h : ∀ topic, o.get? topic = o'.get? topic) :
    o = o' := by
  have hhost := Option.map_injective (fun _ _ => Choice.host.inj) (h .host)
  have hport := Option.map_injective (fun _ _ => Choice.port.inj) (h .port)
  have hcapacity := Option.map_injective (fun _ _ => Choice.capacity.inj) (h .capacity)
  have hlong := Option.map_injective (fun _ _ => Choice.longRetry.inj) (h .longRetry)
  have hshort := Option.map_injective (fun _ _ => Choice.shortRetry.inj) (h .shortRetry)
  have hconnect := Option.map_injective (fun _ _ => Choice.connectTimeout.inj) (h .connectTimeout)
  have hwarn := Option.map_injective (fun _ _ => Choice.warnInterval.inj) (h .warnInterval)
  have hlookup := Option.map_injective (fun _ _ => Choice.lookup.inj) (h .lookup)
  cases o
  cases o'
  simp_all

private theorem bind_number? {α : Type} (make : α → Choice) {number : α → Nat}
    (h : ∀ a, (make a).number? = some (number a)) (value : Option α) :
    (value.map make).bind Choice.number? = value.map number := by
  cases value with
  | none => rfl
  | some a => exact h a

private theorem positive_eq (o : Options) :
    o.positive =
      Topic.positive.map fun topic => (topic.name, (o.get? topic).bind Choice.number?) := by
  have hport := bind_number? .port (fun _ => rfl) o.port
  have hcapacity := bind_number? .capacity (fun _ => rfl) o.capacity
  have hlong := bind_number? .longRetry (fun _ => rfl) o.longRetry
  have hshort := bind_number? .shortRetry (fun _ => rfl) o.shortRetry
  have hconnect := bind_number? .connectTimeout (fun _ => rfl) o.connectTimeout
  have hwarn := bind_number? .warnInterval (fun _ => rfl) o.warnInterval
  simp [positive, Topic.positive, Topic.name, get?, *]

private theorem decide_bind_number? (choice : Option Choice) :
    decide (choice.bind Choice.number? = some 0) = choice.any Choice.isZero := by
  cases choice <;> rfl

private theorem isBlank_host (o : Options) :
    Text.isBlank (o.host.getD "") = Topic.host.offends (o.get? .host) := by
  cases hhost : o.host with
  | none => simp [get?, hhost, Topic.offends, Text.isBlank]
  | some name => simp [get?, hhost, Topic.offends]

private theorem fault?_eq (o : Options) :
    o.fault? = (Topic.checked.find? fun topic => topic.offends (o.get? topic)).map Topic.fault := by
  unfold fault?
  rw [isBlank_host, Topic.checked, List.find?_cons]
  cases hhost : Topic.host.offends (o.get? .host) with
  | true => rfl
  | false =>
      have hpositive : (Topic.positive.find? fun topic => topic.offends (o.get? topic)) =
          Topic.positive.find? fun topic => (o.get? topic).any Choice.isZero := rfl
      have hzero : ((fun entry : String × Option Nat => decide (entry.2 = some 0)) ∘ fun topic =>
          (Topic.name topic, (o.get? topic).bind Choice.number?)) =
          fun topic => (o.get? topic).any Choice.isZero := by
        funext topic
        exact decide_bind_number? (o.get? topic)
      rw [positive_eq, List.find?_map, Option.map_map, hzero, hpositive]
      simp only [Bool.false_eq_true, if_false]
      exact Option.map_congr fun topic hfound =>
        (Topic.fault_of_ne_host (Topic.ne_host_of_positive (List.mem_of_find?_eq_some hfound))).symm

def offender? (o : Options) : Option Topic :=
  Topic.checked.find? fun topic => topic.offends (o.get? topic)

private theorem settings_of_offender {o : Options} {topic : Topic} (h : o.offender? = some topic) :
    o.settings = .error (.invalid topic.fault) := by
  have hfault : o.fault? = some topic.fault := by
    rw [fault?_eq]
    exact congrArg (Option.map Topic.fault) h
  simp [settings, hfault]

private theorem settings_of_no_offender {o : Options} (h : o.offender? = none) :
    ∃ s, o.settings = .ok s := by
  have hfault : o.fault? = none := by
    rw [fault?_eq]
    exact congrArg (Option.map Topic.fault) h
  simp [settings, hfault]

theorem settings_eq_error_iff {o : Options} {e : SetupError} :
    o.settings = .error e ↔ ∃ topic, o.offender? = some topic ∧ e = .invalid topic.fault := by
  cases hoffender : o.offender? with
  | none =>
      obtain ⟨s, hs⟩ := settings_of_no_offender hoffender
      simp [hs]
  | some topic =>
      rw [settings_of_offender hoffender]
      simp [eq_comm]

theorem settings_ok_iff {o : Options} : (∃ s, o.settings = .ok s) ↔ o.offender? = none := by
  refine ⟨fun ⟨s, hs⟩ => ?_, settings_of_no_offender⟩
  cases hoffender : o.offender? with
  | none => rfl
  | some topic => cases hs.symm.trans (settings_of_offender hoffender)

section

variable {o : Options} {s : Settings} {topic : Topic}

private theorem has_of_settings (h : o.settings = .ok s) {choice : Choice}
    (hget : o.get? topic = some choice) : s.Has choice := by
  unfold settings at h
  split at h
  · cases h
  · cases h
    cases topic <;> obtain ⟨value, hvalue, rfl⟩ := Option.map_eq_some_iff.mp hget <;>
      simp [Settings.Has, Settings.forServer, hvalue]

private theorem agreeOn_of_settings (h : o.settings = .ok s) (hget : o.get? topic = none)
    (hhost : topic ≠ .host) : s.AgreeOn .standard topic := by
  unfold settings at h
  split at h
  · cases h
  · cases h
    cases topic with
    | host => exact absurd rfl hhost
    | _ =>
        have hnone := Option.map_eq_none_iff.mp hget
        simp [Settings.AgreeOn, Settings.standard, Settings.forServer, hnone]

private theorem fixed_of_settings (h : o.settings = .ok s) :
    s.pollInterval = Settings.standard.pollInterval ∧
      s.highWater = Settings.standard.highWater := by
  unfold settings at h
  split at h
  · cases h
  · cases h
    exact ⟨rfl, rfl⟩

end

private theorem offender?_of (choices : List Choice) :
    (of choices).offender? =
      Topic.checked.find? fun topic => topic.offends (lastAbout topic choices) := by
  simp only [offender?, get?_of]

/-- Nothing offends just when the host shows something and no number is zero. -/
theorem no_offender_iff {choices : List Choice} :
    (of choices).offender? = none ↔
      (∃ name, lastAbout .host choices = some (.host name) ∧
        ∃ c ∈ name.toList, Text.isBlankChar c = false) ∧
      ∀ topic choice, lastAbout topic choices = some choice → choice.isZero = false := by
  rw [offender?_of, List.find?_eq_none, Topic.checked, List.forall_mem_cons, Bool.not_eq_true,
    Topic.host_offends_eq_false_iff]
  refine and_congr_right fun _ => ⟨fun hnumbers topic choice hlast => ?_,
    fun hnumbers topic hmem => ?_⟩
  · obtain rfl := topic_of_lastAbout hlast
    by_cases hmem : choice.topic ∈ Topic.positive
    · have hfine := hnumbers choice.topic hmem
      rw [Topic.offends_of_ne_host (Topic.ne_host_of_positive hmem), hlast] at hfine
      exact Bool.not_eq_true _ ▸ hfine
    · -- What is no number is not zero either.
      cases choice with
      | host name => rfl
      | lookup lookup => rfl
      | _ => exact absurd (by simp [Choice.topic, Topic.positive]) hmem
  · rw [Topic.offends_of_ne_host (Topic.ne_host_of_positive hmem), Bool.not_eq_true]
    cases hlast : lastAbout topic choices with
    | none => rfl
    | some choice => exact hnumbers topic choice hlast

/-- Settings are made from the last choice about each topic alone. They are made unless the host
shows nothing or a number is zero, and then the error tells of the first topic that offends. What
was chosen is in the settings as it was chosen, and all the rest is standard. -/
theorem settings_exact (choices : List Choice) :
    let made := (of choices).settings
    (∀ others, (∀ topic, lastAbout topic others = lastAbout topic choices) →
      (of others).settings = made) ∧
    ((∃ s, made = .ok s) ↔
      (∃ name, lastAbout .host choices = some (.host name) ∧
        ∃ c ∈ name.toList, Text.isBlankChar c = false) ∧
      ∀ topic choice, lastAbout topic choices = some choice → choice.isZero = false) ∧
    (∀ e, made = .error e ↔ ∃ earlier topic later, Topic.checked = earlier ++ topic :: later ∧
      (∀ t ∈ earlier, t.offends (lastAbout t choices) = false) ∧
      topic.offends (lastAbout topic choices) = true ∧ e = .invalid topic.fault ∧
      e.message = "invalid handler configuration: " ++ topic.complaint) ∧
    (∀ s, made = .ok s →
      (∀ topic choice, lastAbout topic choices = some choice → s.Has choice) ∧
      (∀ topic, lastAbout topic choices = none → topic ≠ .host → s.AgreeOn .standard topic) ∧
      s.pollInterval = Settings.standard.pollInterval ∧
      s.highWater = Settings.standard.highWater) := by
  intro made
  refine ⟨fun others halike => ?_, settings_ok_iff.trans no_offender_iff, fun e => ?_,
    fun s hs => ⟨fun topic choice hlast => ?_, fun topic hlast hhost => ?_, fixed_of_settings hs⟩⟩
  · have hsame : of others = of choices :=
      eq_of_get? fun topic => by rw [get?_of, get?_of, halike topic]
    exact congrArg settings hsame
  · rw [settings_eq_error_iff, offender?_of]
    constructor
    · rintro ⟨topic, hfirst, rfl⟩
      obtain ⟨hoffends, earlier, later, hsplit, hearlier⟩ := List.find?_eq_some_iff_append.mp hfirst
      exact ⟨earlier, topic, later, hsplit, fun t hmem => by simpa using hearlier t hmem, hoffends,
        rfl, Topic.message_fault⟩
    · rintro ⟨earlier, topic, later, hsplit, hearlier, hoffends, rfl, -⟩
      exact ⟨topic, List.find?_eq_some_iff_append.mpr
        ⟨hoffends, earlier, later, hsplit, fun t hmem => by simpa using hearlier t hmem⟩, rfl⟩
  · exact has_of_settings hs ((get?_of choices topic).trans hlast)
  · exact agreeOn_of_settings hs ((get?_of choices topic).trans hlast) hhost

example : (of [.host " ", .port 0, .longRetry 0, .host "logs", .longRetry 7]).settings =
    .error (.invalid (.zero "port")) := by
  decide

end Options

end LogShipping.Uplink
