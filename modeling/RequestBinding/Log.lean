import RequestBinding.Text.Basic

set_option autoImplicit false

namespace RequestBinding

inductive Level where
  | debug
  | info
  deriving DecidableEq

def Level.name : Level → Text
  | .debug => "DEBUG".toList
  | .info => "INFO".toList

inductive Source where
  | directives
  | comments
  deriving DecidableEq

def Source.name : Source → Text
  | .directives => "param_directive.parser.directive".toList
  | .comments => "param_directive.parser.extract".toList

structure Record where
  level : Level
  source : Source
  message : Text
  deriving DecidableEq

def Record.line (r : Record) : Text :=
  r.level.name ++ ' ' :: r.source.name ++ ": ".toList ++ r.message ++ ['\n']

-- A failure does not take back the records ahead of it.
structure Logged (ε α : Type) where
  log : List Record
  outcome : Except ε α

namespace Logged

variable {ε ε' α β : Type}

def ok (a : α) : Logged ε α := ⟨[], .ok a⟩

def fail (e : ε) : Logged ε α := ⟨[], .error e⟩

def ofExcept (x : Except ε α) : Logged ε α := ⟨[], x⟩

def andThen (x : Logged ε α) (f : α → Logged ε β) : Logged ε β :=
  match x.outcome with
  | .ok a => ⟨x.log ++ (f a).log, (f a).outcome⟩
  | .error e => ⟨x.log, .error e⟩

@[simp] theorem ok_andThen (a : α) (f : α → Logged ε β) : (ok a).andThen f = f a := rfl

@[simp] theorem fail_andThen (e : ε) (f : α → Logged ε β) : (fail e).andThen f = fail e := rfl

@[simp] theorem outcome_ok (a : α) : (ok a : Logged ε α).outcome = .ok a := rfl

@[simp] theorem outcome_fail (e : ε) : (fail e : Logged ε α).outcome = .error e := rfl

@[simp] theorem outcome_ofExcept (x : Except ε α) : (ofExcept x).outcome = x := rfl

@[simp] theorem log_fail (e : ε) : (fail e : Logged ε α).log = [] := rfl

@[simp] theorem log_ofExcept (x : Except ε α) : (ofExcept x).log = [] := rfl

@[simp] theorem outcome_andThen (x : Logged ε α) (f : α → Logged ε β) :
    (x.andThen f).outcome = x.outcome.bind fun a => (f a).outcome := by
  cases h : x.outcome <;> simp [andThen, h, Except.bind]

theorem mem_log_andThen {x : Logged ε α} {f : α → Logged ε β} {r : Record} :
    r ∈ (x.andThen f).log ↔ r ∈ x.log ∨ ∃ a, x.outcome = .ok a ∧ r ∈ (f a).log := by
  cases h : x.outcome <;> simp [andThen, h]

def map (f : α → β) (x : Logged ε α) : Logged ε β :=
  ⟨x.log, x.outcome.map f⟩

@[simp] theorem outcome_map (f : α → β) (x : Logged ε α) :
    (x.map f).outcome = x.outcome.map f := rfl

@[simp] theorem log_map (f : α → β) (x : Logged ε α) : (x.map f).log = x.log := rfl

def mapError (f : ε → ε') (x : Logged ε α) : Logged ε' α :=
  ⟨x.log, x.outcome.mapError f⟩

@[simp] theorem outcome_mapError (f : ε → ε') (x : Logged ε α) :
    (x.mapError f).outcome = x.outcome.mapError f := rfl

@[simp] theorem log_mapError (f : ε → ε') (x : Logged ε α) : (x.mapError f).log = x.log := rfl

def before (records : List Record) (x : Logged ε α) : Logged ε α :=
  ⟨records ++ x.log, x.outcome⟩

@[simp] theorem outcome_before (records : List Record) (x : Logged ε α) :
    (x.before records).outcome = x.outcome := rfl

@[simp] theorem log_before (records : List Record) (x : Logged ε α) :
    (x.before records).log = records ++ x.log := rfl

def noting (records : α → List Record) (x : Logged ε α) : Logged ε α :=
  x.andThen fun a => ⟨records a, .ok a⟩

@[simp] theorem outcome_noting (records : α → List Record) (x : Logged ε α) :
    (x.noting records).outcome = x.outcome := by
  cases h : x.outcome <;> simp [noting, h, Except.bind]

theorem mem_log_noting {records : α → List Record} {x : Logged ε α} {r : Record} :
    r ∈ (x.noting records).log ↔ r ∈ x.log ∨ ∃ a, x.outcome = .ok a ∧ r ∈ records a :=
  mem_log_andThen

def each (f : α → Logged ε β) : List α → Logged ε (List β)
  | [] => .ok []
  | a :: rest => (f a).andThen fun b => (each f rest).map (b :: ·)

@[simp] theorem outcome_each (f : α → Logged ε β) (xs : List α) :
    (each f xs).outcome = xs.mapM fun a => (f a).outcome := by
  induction xs with
  | nil => rfl
  | cons a rest ih =>
    simp only [each, outcome_andThen, outcome_map, ih, List.mapM_cons]
    rfl

theorem exists_of_mem_log_each {f : α → Logged ε β} {xs : List α} {r : Record}
    (member : r ∈ (each f xs).log) : ∃ a ∈ xs, r ∈ (f a).log := by
  induction xs with
  | nil => simp [each, ok] at member
  | cons a rest ih =>
    rcases mem_log_andThen.mp member with here | later
    · exact ⟨a, by simp, here⟩
    · obtain ⟨_, _, inRest⟩ := later
      obtain ⟨b, present, found⟩ := ih inRest
      exact ⟨b, List.mem_cons_of_mem _ present, found⟩

end Logged

end RequestBinding
