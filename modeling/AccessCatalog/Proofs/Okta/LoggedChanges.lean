import AccessCatalog.Okta.LogEvent
import AccessCatalog.Proofs.Json.Records
import AccessCatalog.Proofs.Time.Timestamps

/-! Changes that the log tells of. An event in the life of a user is about the one user among its
targets: what it comes to depends on the users alone, wherever they stand among other targets. An
event without a user is passed over, and one with several users is refused. -/
namespace AccessCatalog.Okta

def LogTarget.isUser (t : LogTarget) : Bool := t.type == "User"

/-- Whether a list of targets comes from another one by adding and removing targets that are no
users, at any place. Removed here and added there, a target has moved. -/
inductive Rearranged : List LogTarget → List LogTarget → Prop where
  | refl (targets : List LogTarget) : Rearranged targets targets
  | add {targets : List LogTarget} (front back : List LogTarget) (t : LogTarget) :
      t.type ≠ "User" → Rearranged targets (front ++ back) →
        Rearranged targets (front ++ t :: back)
  | remove {targets : List LogTarget} (front back : List LogTarget) (t : LogTarget) :
      t.type ≠ "User" → Rearranged targets (front ++ t :: back) →
        Rearranged targets (front ++ back)

namespace Rearranged

variable {targets others : List LogTarget}

theorem filter_other {t : LogTarget} (other : t.type ≠ "User") (front back : List LogTarget) :
    (front ++ t :: back).filter LogTarget.isUser = (front ++ back).filter LogTarget.isUser := by
  have skipped : ¬t.isUser = true := by simpa [LogTarget.isUser] using other
  rw [List.filter_append, List.filter_cons_of_neg skipped, List.filter_append]

theorem users_eq (moved : Rearranged targets others) :
    others.filter LogTarget.isUser = targets.filter LogTarget.isUser := by
  induction moved with
  | refl => rfl
  | add front back t other _ ih => rw [filter_other other, ih]
  | remove front back t other _ ih => rw [← filter_other other, ih]

/-- All targets but the users may go, and may come back. -/
theorem iff_filter (front back : List LogTarget) :
    Rearranged targets (front ++ back) ↔
      Rearranged targets (front ++ back.filter LogTarget.isUser) := by
  induction back generalizing front with
  | nil => exact Iff.rfl
  | cons t back ih =>
    by_cases user : t.isUser = true
    · have moved := ih (front ++ [t])
      rw [List.append_assoc, List.append_assoc] at moved
      rw [List.filter_cons_of_pos user]
      exact moved
    · have other : t.type ≠ "User" := by simpa [LogTarget.isUser] using user
      rw [List.filter_cons_of_neg user, ← ih front]
      exact ⟨.remove front back t other, .add front back t other⟩

/-- Lists of targets come from each other just if they have the same users in the same order. -/
theorem iff_users_eq : Rearranged targets others ↔
    others.filter LogTarget.isUser = targets.filter LogTarget.isUser := by
  refine ⟨users_eq, fun same => ?_⟩
  have removed : Rearranged targets (targets.filter LogTarget.isUser) :=
    (iff_filter [] targets).mp (.refl targets)
  rw [← same] at removed
  exact (iff_filter [] others).mpr removed

end Rearranged

namespace LogEvent

/-- The users that an event is about, in their order. -/
def users (e : LogEvent) : List LogTarget := e.targets.filter LogTarget.isUser

def lifecycleTypes : List String :=
  ["user.lifecycle.create", "user.lifecycle.activate", "user.account.update_profile"]

def wrongCount (count : Nat) : Fault :=
  .validation ("expected 1 User target, got " ++ Nat.repr count)

/-- Whether the details tell the type of the event and, if it is known, when it was published, and
nothing else. -/
structure Describes (details : Profile) (e : LogEvent) : Prop where
  eventType : details.get? "event_type" = some (.text e.eventType)
  published : details.get? "published" = e.published.map fun t => .text (t.text .millis)
  others : ∀ key, key ≠ "event_type" → key ≠ "published" → details.get? key = none

theorem describes_iff {details : Profile} {e : LogEvent} :
    Describes details e ↔ details = e.details := by
  have described : Describes e.details e := by
    unfold LogEvent.details
    cases known : e.published with
    | none => exact ⟨by simp, by simp [known], fun key first _ => by simp [first]⟩
    | some t => exact ⟨by simp, by simp [known], fun key first second => by simp [first, second]⟩
  refine ⟨fun other => Profile.ext_get? fun key => ?_, fun same => same ▸ described⟩
  by_cases first : key = "event_type"
  · rw [first, other.eventType, described.eventType]
  · by_cases second : key = "published"
    · rw [second, other.published, described.published]
    · rw [other.others key first second, described.others key first second]

theorem users_eq_nil {e : LogEvent} : e.users = [] ↔ ∀ t ∈ e.targets, t.type ≠ "User" := by
  simp [users, LogTarget.isUser, List.filter_eq_nil_iff]

end LogEvent

namespace EventFilter

theorem isMatch_userLifecycle {e : LogEvent} :
    userLifecycle.isMatch e = true ↔ e.eventType ∈ LogEvent.lifecycleTypes ∧ e.users ≠ [] := by
  have some_user : e.targets.any userLifecycle.takes = true ↔ e.users ≠ [] := by
    rw [ne_eq, LogEvent.users_eq_nil]
    simp [takes, userLifecycle, userTargetType]
  rw [isMatch, Bool.and_eq_true, some_user, List.contains_iff_mem]
  rfl

/-- The filter sees the users of the event, each once. -/
theorem handle_userLifecycle (e : LogEvent) : userLifecycle.handle e =
    match e.users with
    | [user] => .ok ⟨e.uuid, ⟨"user", user.id⟩, e.details⟩
    | users => .error (LogEvent.wrongCount users.length) := by
  have seen : ((e.targets.filter userLifecycle.takes).filter fun t => t.type = userTargetType) =
      e.users := by
    rw [List.filter_filter]
    exact List.filter_congr fun t _ => by
      by_cases user : t.type = "User" <;>
        simp [takes, userLifecycle, userTargetType, LogTarget.isUser, user]
  have handled : userLifecycle.handle e = userChange e (e.targets.filter userLifecycle.takes) := rfl
  rw [handled, userChange, seen]
  rfl

end EventFilter

namespace LogEvent

open EventFilter (userLifecycle)

variable {e : LogEvent}

theorem change?_eq (e : LogEvent) : e.change? =
    if userLifecycle.isMatch e then (userLifecycle.handle e).map some else .ok none := by
  unfold change? EventFilter.all
  by_cases hit : userLifecycle.isMatch e = true <;> simp [hit]

/-- The three outcomes of an event, by its type and its users. -/
theorem change?_cases (e : LogEvent) :
    (e.eventType ∉ lifecycleTypes ∨ e.users = []) ∧ e.change? = .ok none ∨
    e.eventType ∈ lifecycleTypes ∧ (∃ user, e.users = [user] ∧
      e.change? = .ok (some ⟨e.uuid, ⟨"user", user.id⟩, e.details⟩)) ∨
    e.eventType ∈ lifecycleTypes ∧ 2 ≤ e.users.length ∧
      e.change? = .error (wrongCount e.users.length) := by
  by_cases hit : userLifecycle.isMatch e = true
  · rw [change?_eq, if_pos hit, EventFilter.handle_userLifecycle]
    obtain ⟨known, some_user⟩ := EventFilter.isMatch_userLifecycle.mp hit
    cases listed : e.users with
    | nil => exact absurd listed some_user
    | cons user others =>
      cases others with
      | nil => exact .inr (.inl ⟨known, user, rfl, rfl⟩)
      | cons other others => exact .inr (.inr ⟨known, by simp, rfl⟩)
  · rw [change?_eq, if_neg hit]
    rw [EventFilter.isMatch_userLifecycle, not_and_or, ne_eq, not_not] at hit
    exact .inl ⟨hit, rfl⟩

/-- What an event comes to depends on its users, and not on its other targets. -/
theorem change?_congr {targets : List LogTarget}
    (same : targets.filter LogTarget.isUser = e.users) :
    ({ e with targets } : LogEvent).change? = e.change? := by
  have users : ({ e with targets } : LogEvent).users = e.users := same
  have hit : userLifecycle.isMatch { e with targets } = userLifecycle.isMatch e := by
    rw [Bool.eq_iff_iff, EventFilter.isMatch_userLifecycle, EventFilter.isMatch_userLifecycle,
      users]
  rw [change?_eq, change?_eq, hit, EventFilter.handle_userLifecycle,
    EventFilter.handle_userLifecycle, users]
  rfl

theorem wrongCount_inj {m n : Nat} (same : wrongCount m = wrongCount n) : m = n := by
  have texts := congrArg String.toList (Fault.validation.inj same)
  rw [String.toList_append, String.toList_append, List.append_cancel_left_eq, Nat.toList_repr,
    Nat.toList_repr] at texts
  have value := fun n => Nat.ofDigitChars_toDigits (b := 10) (n := n) (by decide) (by decide)
  rw [← value m, texts, value n]

theorem change?_eq_none_iff : e.change? = .ok none ↔
    e.eventType ∉ lifecycleTypes ∨ ∀ t ∈ e.targets, t.type ≠ "User" := by
  rw [← users_eq_nil]
  rcases change?_cases e with ⟨passed, came⟩ | ⟨known, user, one, came⟩ | ⟨known, several, came⟩
  · exact ⟨fun _ => passed, fun _ => came⟩
  · rw [came]
    exact ⟨nofun, fun h => by simp [known, one] at h⟩
  · rw [came]
    refine ⟨nofun, fun h => ?_⟩
    rcases h with unknown | none
    · exact absurd known unknown
    · simp [none] at several

theorem change?_eq_error_iff {fault : Fault} : e.change? = .error fault ↔
    e.eventType ∈ lifecycleTypes ∧ 2 ≤ e.users.length ∧ fault = wrongCount e.users.length := by
  rcases change?_cases e with ⟨passed, came⟩ | ⟨known, user, one, came⟩ | ⟨known, several, came⟩
  · rw [came]
    refine ⟨nofun, fun ⟨known, several, _⟩ => ?_⟩
    rcases passed with unknown | none
    · exact absurd known unknown
    · simp [none] at several
  · rw [came]
    refine ⟨nofun, fun ⟨_, several, _⟩ => ?_⟩
    simp [one] at several
  · rw [came]
    exact ⟨fun same => ⟨known, several, (Except.error.inj same).symm⟩, fun h => h.2.2 ▸ rfl⟩

theorem change?_eq_some_iff {change : ChangeEvent} : e.change? = .ok (some change) ↔
    e.eventType ∈ lifecycleTypes ∧ ∃ user, e.users = [user] ∧ change.eventId = e.uuid ∧
      change.resourceId = ⟨"user", user.id⟩ ∧ Describes change.details e := by
  rcases change?_cases e with ⟨passed, came⟩ | ⟨known, user, one, came⟩ | ⟨known, several, came⟩
  · rw [came]
    refine ⟨nofun, fun ⟨known, user, one, _⟩ => ?_⟩
    simp [known, one] at passed
  · rw [came]
    constructor
    · intro same
      cases same
      exact ⟨known, user, one, rfl, rfl, describes_iff.mpr rfl⟩
    · rintro ⟨_, other, alone, id, resource, described⟩
      rw [one] at alone
      cases alone
      obtain ⟨eventId, resourceId, details⟩ := change
      cases id
      cases resource
      cases describes_iff.mp described
      rfl
  · rw [came]
    refine ⟨nofun, fun ⟨_, user, one, _⟩ => ?_⟩
    simp [one] at several

/-- The refusal for want of a user, which the filter has for events that it does not take. -/
theorem handle_eq_wrongCount_zero_iff :
    userLifecycle.handle e = .error (wrongCount 0) ↔ e.users = [] := by
  rw [EventFilter.handle_userLifecycle]
  cases e.users with
  | nil => exact ⟨fun _ => rfl, fun _ => rfl⟩
  | cons user others =>
    refine ⟨fun same => ?_, nofun⟩
    cases others with
    | nil => cases same
    | cons other others => exact absurd (wrongCount_inj (Except.error.inj same)) (by simp)

theorem change?_ne_wrongCount_zero : e.change? ≠ .error (wrongCount 0) := by
  intro zero
  obtain ⟨_, several, same⟩ := change?_eq_error_iff.mp zero
  have none := wrongCount_inj same
  omega

/-- An event is passed over without a user, refused with several, and is else the change of its one
user; it never comes to the refusal that the filter has for no user at all. -/
theorem change_of_users (e : LogEvent) :
    (e.change? = .ok none ↔
      e.eventType ∉ lifecycleTypes ∨ ∀ t ∈ e.targets, t.type ≠ "User") ∧
    (∀ fault, e.change? = .error fault ↔
      e.eventType ∈ lifecycleTypes ∧ 2 ≤ e.users.length ∧ fault = wrongCount e.users.length) ∧
    (∀ change, e.change? = .ok (some change) ↔
      e.eventType ∈ lifecycleTypes ∧ ∃ user, e.users = [user] ∧ change.eventId = e.uuid ∧
        change.resourceId = ⟨"user", user.id⟩ ∧ Describes change.details e) ∧
    (∀ published, e.published = some published → published.IsValid →
      Instant.parse? (published.text .millis) =
        some { published with nano := published.nano / 1000000 * 1000000 }) ∧
    (∀ targets, Rearranged e.targets targets →
      ({ e with targets } : LogEvent).change? = e.change?) ∧
    (userLifecycle.handle e = .error (wrongCount 0) ↔ e.users = []) ∧
    e.change? ≠ .error (wrongCount 0) :=
  ⟨change?_eq_none_iff, fun _ => change?_eq_error_iff, fun _ => change?_eq_some_iff,
    fun _ _ valid => Instant.parse?_text_shown .millis valid,
    fun _ moved => change?_congr moved.users_eq, handle_eq_wrongCount_zero_iff,
    change?_ne_wrongCount_zero⟩

/-! An activation with another target behind the user, and with that target moved in front. -/

def activation : LogEvent where
  uuid := "evt-1"
  eventType := "user.lifecycle.activate"
  published := some ⟨19844, 43200, 120345678⟩
  targets := [⟨"00u1", "User", some "jane@acme.com", none⟩, ⟨"0oa1", "AppInstance", none, none⟩]

def appFirst : List LogTarget :=
  [⟨"0oa1", "AppInstance", none, none⟩, ⟨"00u1", "User", some "jane@acme.com", none⟩]

theorem change_of_activation :
    Rearranged activation.targets appFirst ∧ Instant.IsValid ⟨19844, 43200, 120345678⟩ ∧
      (∃ change, ({ activation with targets := appFirst } : LogEvent).change? = .ok (some change) ∧
        change.resourceId = ⟨"user", "00u1"⟩) ∧
      Instant.parse? "2024-05-01T12:00:00.120Z" = some ⟨19844, 43200, 120000000⟩ := by
  have moved : Rearranged activation.targets appFirst := Rearranged.iff_users_eq.mpr (by decide)
  have valid : Instant.IsValid ⟨19844, 43200, 120345678⟩ :=
    ⟨by decide, by decide, .inl (by decide)⟩
  obtain ⟨_, _, changed, told, same, _⟩ := change_of_users activation
  let change : ChangeEvent := ⟨"evt-1", ⟨"user", "00u1"⟩, activation.details⟩
  refine ⟨moved, valid, ⟨change, ?_, rfl⟩, ?_⟩
  · rw [same appFirst moved, changed]
    exact ⟨by decide, _, rfl, rfl, rfl, describes_iff.mpr rfl⟩
  · have written : Instant.text ⟨19844, 43200, 120345678⟩ .millis = "2024-05-01T12:00:00.120Z" := by
      decide +kernel
    rw [← written]
    exact told _ rfl valid

end LogEvent
end AccessCatalog.Okta
