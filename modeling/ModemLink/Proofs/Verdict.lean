/-
Module: ModemLink.Proofs.Verdict
Purpose: What a request comes to with a modem of a given profile.
Main exports: target, verdict, react_cases, errors_of_validate, verdict_of_answer
-/
import ModemLink.Modem.Profile
import ModemLink.Outcome
import ModemLink.Proofs.Rungs

namespace ModemLink.ModemProfile

/-!
A bridge does not know the profile of its modem and finds a version by being refused.  `target` is
the version it should find, and `verdict` is what a request should come to then.
-/

open VersionTable (Allows)

/-- The highest rung of a kind that the cap allows and the modem speaks. -/
def target (profile : ModemProfile) (cap : Option Version) (kind : RequestKind) : Option Version :=
  kind.ladder.rungs.reverse.find? fun rung => Allows cap rung ∧ rung ≤ profile.maxVersionFor kind

/-- What a request comes to; `none` where it waits for ever. -/
def verdict (profile : ModemProfile) (cap : Option Version) (kind : RequestKind)
    (payload : Payload) : Option Outcome :=
  match profile.target cap kind with
  | none => some (.failed (.unsupported kind))
  | some _ =>
    if profile.silent.get kind then none
    else match profile.errors.get kind with
      | some code => some (.failed (.rejected kind code))
      | none => some (.ok payload)

/-! ## The target -/

theorem target_eq_some {profile : ModemProfile} {cap : Option Version} {kind : RequestKind}
    {target : Version} (found : profile.target cap kind = some target) :
    target ∈ kind.ladder.rungs ∧ Allows cap target ∧ target ≤ profile.maxVersionFor kind := by
  have member := List.mem_reverse.mp (List.mem_of_find?_eq_some found)
  exact ⟨member, by simpa using List.find?_some found⟩

/-- A target is at or above each rung that the cap allows and the modem speaks. -/
theorem target_of_rung {profile : ModemProfile} {cap : Option Version} {kind : RequestKind}
    {rung : Version} (member : rung ∈ kind.ladder.rungs) (allowed : Allows cap rung)
    (known : rung ≤ profile.maxVersionFor kind) :
    ∃ target, profile.target cap kind = some target ∧ rung ≤ target :=
  Ladder.last_fit_of_mem kind.ladder_ascending _ member (by simpa using ⟨allowed, known⟩)

/-! ## Reactions -/

/-- The three ways in which a modem reacts. -/
theorem react_cases (profile : ModemProfile) (kind : RequestKind) (version : Version) :
    (profile.maxVersionFor kind < version ∧
      profile.react kind version = .respond .requestNotSupported) ∨
    (version ≤ profile.maxVersionFor kind ∧ profile.silent.get kind = true ∧
      profile.react kind version = .ignore) ∨
    (version ≤ profile.maxVersionFor kind ∧ profile.silent.get kind = false ∧
      profile.react kind version = .respond ((profile.errors.get kind).getD .success)) := by
  unfold react
  by_cases above : profile.maxVersionFor kind < version
  · exact Or.inl ⟨above, if_pos above⟩
  · have known : version ≤ profile.maxVersionFor kind := Nat.le_of_not_lt above
    rw [if_neg above]
    cases silent : profile.silent.get kind with
    | true => exact Or.inr (Or.inl ⟨known, rfl, rfl⟩)
    | false => exact Or.inr (Or.inr ⟨known, rfl, rfl⟩)

/-- In a profile that makes sense no kind has success for its error. -/
theorem errors_of_validate {profile : ModemProfile} (valid : profile.validate = .ok ())
    {kind : RequestKind} {code : AnswerCode} (error : profile.errors.get kind = some code) :
    code.isSuccess = false := by
  unfold validate at valid
  split at valid
  · split at valid
    · simp at valid
    · rename_i none
      have clean := List.find?_eq_none.mp none kind kind.mem_all
      rw [error] at clean
      simpa using clean
  · simp at valid

/-! ## The verdict -/

theorem verdict_of_no_target {profile : ModemProfile} {cap : Option Version} {kind : RequestKind}
    (beyond : profile.target cap kind = none) (payload : Payload) :
    profile.verdict cap kind payload = some (.failed (.unsupported kind)) := by
  simp only [verdict, beyond]

/-- What is sent at a rung and ignored waits for ever. -/
theorem verdict_of_ignored {profile : ModemProfile} {cap : Option Version} {kind : RequestKind}
    {version : Version} (member : version ∈ kind.ladder.rungs) (allowed : Allows cap version)
    (ignored : profile.react kind version = .ignore) (payload : Payload) :
    profile.verdict cap kind payload = none := by
  rcases profile.react_cases kind version with ⟨-, refused⟩ | ⟨known, silent, -⟩ | ⟨-, -, answered⟩
  · rw [refused] at ignored
    cases ignored
  · obtain ⟨target, found, -⟩ := target_of_rung member allowed known
    simp only [verdict, found, silent, if_true]
  · rw [answered] at ignored
    cases ignored

/-- An answer other than a refusal of the version is the verdict. -/
theorem verdict_of_answer {profile : ModemProfile} (valid : profile.validate = .ok ())
    {cap : Option Version} {kind : RequestKind} {version : Version} {code : AnswerCode}
    (member : version ∈ kind.ladder.rungs) (allowed : Allows cap version)
    (answered : profile.react kind version = .respond code)
    (known : code.isNotSupported = false) (payload : Payload) :
    profile.verdict cap kind payload =
      some (if code.isSuccess then .ok payload else .failed (.rejected kind code)) := by
  rcases profile.react_cases kind version with ⟨-, refused⟩ | ⟨-, -, ignored⟩ |
    ⟨below, talks, spoken⟩
  · rw [refused] at answered
    cases answered
    simp [AnswerCode.isNotSupported] at known
  · rw [ignored] at answered
    cases answered
  · rw [spoken] at answered
    cases answered
    obtain ⟨target, found, -⟩ := target_of_rung member allowed below
    cases error : profile.errors.get kind with
    | none => simp [verdict, found, talks, error, AnswerCode.isSuccess]
    | some code => simp [verdict, found, talks, error, errors_of_validate valid error]

/-- A modem that does not have this refusal for an error refuses only versions above what it
speaks. -/
theorem above_of_refused {profile : ModemProfile} {kind : RequestKind} {version : Version}
    {code : AnswerCode} (honest : profile.errors.get kind ≠ some .requestNotSupported)
    (answered : profile.react kind version = .respond code)
    (refused : code.isNotSupported = true) : profile.maxVersionFor kind < version := by
  rw [AnswerCode.isNotSupported_iff.mp refused] at answered
  rcases profile.react_cases kind version with ⟨above, -⟩ | ⟨-, -, ignored⟩ | ⟨-, -, spoken⟩
  · exact above
  · rw [ignored] at answered
    cases answered
  · rw [spoken] at answered
    cases error : profile.errors.get kind with
    | none => simp [error, AnswerCode.success, AnswerCode.requestNotSupported] at answered
    | some code =>
        simp only [error, Option.getD_some, Reaction.respond.injEq] at answered
        exact absurd (answered ▸ error) honest

end ModemLink.ModemProfile
