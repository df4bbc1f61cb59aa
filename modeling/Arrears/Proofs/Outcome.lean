import Arrears.Error
import Mathlib.Data.List.Forall2

/-! Outcomes of compound steps. A success of one is a success of each of its parts, and it fails as the
first part that fails. -/

set_option autoImplicit false

namespace Arrears

section

variable {ε δ α β γ : Type}

theorem bind_eq_ok {outcome : Except ε α} {next : α → Except ε β} {b : β} :
    outcome >>= next = .ok b ↔ ∃ a, outcome = .ok a ∧ next a = .ok b := by
  cases outcome with
  | error fault => exact ⟨nofun, fun ⟨_, same, _⟩ => nomatch same⟩
  | ok a => exact ⟨fun same => ⟨a, rfl, same⟩, fun ⟨_, same, rest⟩ => by cases same; exact rest⟩

/-- What fails is the first step, or what follows its success. -/
theorem bind_eq_error {outcome : Except ε α} {next : α → Except ε β} {fault : ε} :
    outcome >>= next = .error fault ↔
      outcome = .error fault ∨ ∃ a, outcome = .ok a ∧ next a = .error fault := by
  cases outcome with
  | error cause =>
    constructor
    · exact fun same => .inl (congrArg _ (Except.error.inj same))
    · rintro (same | ⟨_, same, _⟩)
      · cases same; rfl
      · cases same
  | ok a =>
    constructor
    · exact fun failed => .inr ⟨a, rfl, failed⟩
    · rintro (same | ⟨_, same, failed⟩)
      · cases same
      · cases same; exact failed

theorem map_eq_ok {outcome : Except ε α} {f : α → β} {b : β} :
    outcome.map f = .ok b ↔ ∃ a, outcome = .ok a ∧ f a = b := by
  cases outcome with
  | error fault => exact ⟨nofun, fun ⟨_, same, _⟩ => nomatch same⟩
  | ok a =>
    exact ⟨fun same => ⟨a, rfl, Except.ok.inj same⟩,
      fun ⟨_, same, value⟩ => by cases same; exact congrArg _ value⟩

theorem mapError_ok (f : ε → δ) (a : α) : (Except.ok a : Except ε α).mapError f = .ok a := rfl

theorem mapError_eq_ok {outcome : Except ε α} {f : ε → δ} {a : α} :
    outcome.mapError f = .ok a ↔ outcome = .ok a := by
  cases outcome with
  | error fault => exact ⟨nofun, nofun⟩
  | ok b => exact ⟨fun same => congrArg _ (Except.ok.inj same), fun same => congrArg _ (Except.ok.inj same)⟩

theorem map_eq_error {outcome : Except ε α} {f : α → β} {fault : ε} :
    outcome.map f = .error fault ↔ outcome = .error fault := by
  cases outcome with
  | error cause =>
    exact ⟨fun same => congrArg _ (Except.error.inj same), fun same => congrArg _ (Except.error.inj same)⟩
  | ok a => exact ⟨nofun, nofun⟩

theorem mapError_eq_error {outcome : Except ε α} {f : ε → δ} {fault : δ} :
    outcome.mapError f = .error fault ↔ ∃ cause, outcome = .error cause ∧ f cause = fault := by
  cases outcome with
  | error cause =>
    exact ⟨fun same => ⟨cause, rfl, Except.error.inj same⟩,
      fun ⟨_, same, value⟩ => by cases same; exact congrArg _ value⟩
  | ok a => exact ⟨nofun, fun ⟨_, same, _⟩ => nomatch same⟩

theorem mapM_cons_eq_ok {f : α → Except ε β} {a : α} {as : List α} {bs : List β} :
    (a :: as).mapM f = .ok bs ↔ ∃ b others, f a = .ok b ∧ as.mapM f = .ok others ∧ bs = b :: others := by
  rw [List.mapM_cons, bind_eq_ok]
  constructor
  · rintro ⟨b, first, rest⟩
    obtain ⟨others, read, same⟩ := bind_eq_ok.1 rest
    exact ⟨b, others, first, read, (Except.ok.inj same).symm⟩
  · rintro ⟨b, others, first, read, rfl⟩
    exact ⟨b, first, bind_eq_ok.2 ⟨others, read, rfl⟩⟩

theorem mapM_nil_eq_ok {f : α → Except ε β} {bs : List β} : [].mapM f = .ok bs ↔ bs = [] :=
  ⟨fun same => (Except.ok.inj same).symm, fun same => by rw [same]; rfl⟩

theorem mapM_append_eq_ok {f : α → Except ε β} {as more : List α} {bs : List β} :
    (as ++ more).mapM f = .ok bs ↔
      ∃ front back, as.mapM f = .ok front ∧ more.mapM f = .ok back ∧ bs = front ++ back := by
  rw [List.mapM_append, bind_eq_ok]
  constructor
  · rintro ⟨front, first, rest⟩
    obtain ⟨back, second, same⟩ := bind_eq_ok.1 rest
    exact ⟨front, back, first, second, (Except.ok.inj same).symm⟩
  · rintro ⟨front, back, first, second, rfl⟩
    exact ⟨front, first, bind_eq_ok.2 ⟨back, second, rfl⟩⟩

theorem mapM_eq_ok_iff {f : α → Except ε β} {as : List α} {bs : List β} :
    as.mapM f = .ok bs ↔ List.Forall₂ (fun a b => f a = .ok b) as bs := by
  induction as generalizing bs with
  | nil => rw [mapM_nil_eq_ok, List.forall₂_nil_left_iff]
  | cons a as ih => simp only [mapM_cons_eq_ok, List.forall₂_cons_left_iff, ih]

theorem mem_mapM {f : α → Except ε β} {as : List α} {bs : List β} (collected : as.mapM f = .ok bs)
    {b : β} : b ∈ bs ↔ ∃ a ∈ as, f a = .ok b := by
  induction as generalizing bs with
  | nil => simp [mapM_nil_eq_ok.1 collected]
  | cons a as ih =>
    obtain ⟨c, others, first, rest, rfl⟩ := mapM_cons_eq_ok.1 collected
    simp [ih rest, first, eq_comm]

theorem forall_mem_mapM {f : α → Except ε β} {as : List α} {bs : List β} {holds : β → Prop}
    (collected : as.mapM f = .ok bs) (each : ∀ a ∈ as, ∀ b, f a = .ok b → holds b) :
    ∀ b ∈ bs, holds b := by
  intro b member
  obtain ⟨a, among, gives⟩ := (mem_mapM collected).1 member
  exact each a among b gives

theorem map_mapM {f : α → Except ε β} {as : List α} {bs : List β} {g : β → γ} {h : α → γ}
    (collected : as.mapM f = .ok bs) (each : ∀ a ∈ as, ∀ b, f a = .ok b → g b = h a) :
    bs.map g = as.map h := by
  induction as generalizing bs with
  | nil => rw [mapM_nil_eq_ok.1 collected, List.map_nil, List.map_nil]
  | cons a as ih =>
    obtain ⟨b, others, first, rest, rfl⟩ := mapM_cons_eq_ok.1 collected
    obtain ⟨told, more⟩ := List.forall_mem_cons.1 each
    rw [List.map_cons, told b first, ih rest more, List.map_cons]

theorem map_flatten_mapM {f : α → Except ε (List β)} {as : List α} {bss : List (List β)} {g : β → γ}
    {h : α → List γ} (collected : as.mapM f = .ok bss)
    (each : ∀ a ∈ as, ∀ bs, f a = .ok bs → bs.map g = h a) : bss.flatten.map g = as.flatMap h := by
  rw [List.map_flatten, map_mapM collected each, List.flatMap_def]

theorem pairwise_mapM {f : α → Except ε β} {as : List α} {bs : List β} {before : α → α → Prop}
    {after : β → β → Prop} (ordered : as.Pairwise before) (collected : as.mapM f = .ok bs)
    (each : ∀ a a' b b', before a a' → f a = .ok b → f a' = .ok b' → after b b') :
    bs.Pairwise after := by
  induction as generalizing bs with
  | nil => cases mapM_nil_eq_ok.1 collected; exact List.Pairwise.nil
  | cons a as ih =>
    obtain ⟨b, others, first, rest, rfl⟩ := mapM_cons_eq_ok.1 collected
    obtain ⟨beyond, ordered⟩ := List.pairwise_cons.1 ordered
    refine List.pairwise_cons.2 ⟨?_, ih ordered rest⟩
    exact forall_mem_mapM rest fun a' member b' => each a a' b b' (beyond a' member) first

theorem exists_mapM {f : α → Except ε β} {as : List α} (each : ∀ a ∈ as, ∃ b, f a = .ok b) :
    ∃ bs, as.mapM f = .ok bs := by
  induction as with
  | nil => exact ⟨[], rfl⟩
  | cons a as ih =>
    obtain ⟨b, first⟩ := each a List.mem_cons_self
    obtain ⟨others, rest⟩ := ih fun a member => each a (List.mem_cons_of_mem _ member)
    exact ⟨b :: others, mapM_cons_eq_ok.2 ⟨b, others, first, rest, rfl⟩⟩

/-- Collecting fails at the first item that gives no result, as this item does. -/
theorem mapM_eq_error_iff {f : α → Except ε β} {as : List α} {fault : ε} :
    as.mapM f = .error fault ↔ ∃ front a back, as = front ++ a :: back ∧
      (∀ earlier ∈ front, ∃ b, f earlier = .ok b) ∧ f a = .error fault := by
  induction as with
  | nil => simp [pure, Except.pure]
  | cons a as ih =>
    rw [List.mapM_cons, bind_eq_error]
    constructor
    · rintro (failed | ⟨b, first, rest⟩)
      · exact ⟨[], a, as, rfl, List.forall_mem_nil _, failed⟩
      · rcases bind_eq_error.1 rest with failed | ⟨_, _, never⟩
        · obtain ⟨front, item, back, rfl, before, failed⟩ := ih.1 failed
          exact ⟨a :: front, item, back, rfl, List.forall_mem_cons.2 ⟨⟨b, first⟩, before⟩, failed⟩
        · cases never
    · rintro ⟨front, item, back, same, before, failed⟩
      cases front with
      | nil => cases same; exact .inl failed
      | cons earlier front =>
        obtain ⟨rfl, rfl⟩ := List.cons.inj same
        obtain ⟨⟨b, first⟩, before⟩ := List.forall_mem_cons.1 before
        exact .inr ⟨b, first, bind_eq_error.2 (.inl (ih.2 ⟨front, item, back, rfl, before, failed⟩))⟩

theorem exists_of_mapM_error {f : α → Except ε β} {as : List α} {fault : ε}
    (failed : as.mapM f = .error fault) : ∃ a ∈ as, f a = .error fault := by
  obtain ⟨front, a, back, rfl, _, failed⟩ := mapM_eq_error_iff.1 failed
  exact ⟨a, List.mem_append_right front List.mem_cons_self, failed⟩

theorem mapM_eq_ok_map {f : α → Except ε β} {g : α → β} {as : List α}
    (each : ∀ a ∈ as, f a = .ok (g a)) : as.mapM f = .ok (as.map g) := by
  induction as with
  | nil => rfl
  | cons a as ih =>
    refine mapM_cons_eq_ok.2 ⟨g a, as.map g, each a List.mem_cons_self, ?_, rfl⟩
    exact ih fun a member => each a (List.mem_cons_of_mem _ member)

end

end Arrears
