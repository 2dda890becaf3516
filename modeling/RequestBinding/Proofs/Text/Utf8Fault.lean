import RequestBinding.Proofs.Outcome
import RequestBinding.Proofs.Text.Utf8Sequence

set_option autoImplicit false

namespace RequestBinding.Utf8

def Opening (run : List UInt8) : Prop :=
  ∃ more, more ≠ [] ∧ Sequence (run ++ more)

structure LongestOpening (run bytes : List UInt8) : Prop where
  opening : Opening run
  starts : run <+: bytes
  longest : ∀ other, Opening other → other <+: bytes → other.length ≤ run.length

-- Why the bytes behind a run that opens a sequence do not complete it.
def Reason.behind (run rest : List UInt8) : Reason :=
  if run = [] then .invalidStart
  else if rest = [] then .unexpectedEnd
  else .invalidContinuation

structure Fault.Tells (f : Fault) (bytes : List UInt8) : Prop where
  stuck : ∀ s, Sequence s → ¬ s <+: bytes
  first : bytes.head? = some f.first
  range : ∃ run rest, bytes = run ++ rest ∧ LongestOpening run bytes ∧
    f.width = max 1 run.length ∧ f.reason = Reason.behind run rest

section DeadEnd

variable {seen behind : List UInt8}

theorem isPrefix_of_dead_end (dead : ∀ b ∈ behind.head?, ∀ tail, ¬ Sequence (seen ++ b :: tail))
    {s more : List UInt8} (starts : s <+: seen ++ behind) (sequence : Sequence (s ++ more)) :
    s <+: seen := by
  obtain ⟨t, whole⟩ := starts
  rcases List.append_eq_append_iff.mp whole with ⟨left, rfl, -⟩ | ⟨past, rfl, rest⟩
  · exact List.prefix_append s left
  · cases past with
    | nil => simp
    | cons b past =>
      have impossible := dead b (by simp [rest]) (past ++ more)
      simp only [List.append_assoc, List.cons_append] at sequence
      exact absurd sequence impossible

theorem longestOpening_of_dead_end (opening : Opening seen)
    (dead : ∀ b ∈ behind.head?, ∀ tail, ¬ Sequence (seen ++ b :: tail)) :
    LongestOpening seen (seen ++ behind) := by
  refine ⟨opening, List.prefix_append seen behind, ?_⟩
  rintro other ⟨more, -, sequence⟩ starts
  exact (isPrefix_of_dead_end dead starts sequence).length_le

theorem stuck_of_dead_end (opening : Opening seen)
    (dead : ∀ b ∈ behind.head?, ∀ tail, ¬ Sequence (seen ++ b :: tail)) {s : List UInt8}
    (sequence : Sequence s) : ¬ s <+: seen ++ behind := by
  intro starts
  obtain ⟨more, filled, opened⟩ := opening
  rw [← List.append_nil s] at sequence
  obtain ⟨t, rfl⟩ := isPrefix_of_dead_end dead starts sequence
  rw [List.append_nil] at sequence
  rw [List.append_assoc] at opened
  have nothing := sequence.eq_nil_of_append opened
  exact filled (List.append_eq_nil_iff.mp nothing).2

theorem tells_of_dead_end {f : Fault} (opening : Opening seen)
    (dead : ∀ b ∈ behind.head?, ∀ tail, ¬ Sequence (seen ++ b :: tail))
    (first : (seen ++ behind).head? = some f.first) (width : f.width = max 1 seen.length)
    (reason : f.reason = Reason.behind seen behind) : f.Tells (seen ++ behind) :=
  ⟨fun _ sequence => stuck_of_dead_end opening dead sequence, first,
    ⟨seen, behind, rfl, longestOpening_of_dead_end opening dead, width, reason⟩⟩

end DeadEnd

-- What a state knows of the bytes read of a sequence.
structure Pending.After (seen : List UInt8) (p : Pending) : Prop where
  completes_iff : ∀ tail, Sequence (seen ++ tail) ↔ p.Completes tail
  exists_completes : ∃ tail, p.Completes tail
  width : p.width = seen.length
  first : seen.head? = some p.first

namespace Pending

variable {p : Pending} {b : UInt8} {seen : List UInt8}

theorem after_ofFirst? (found : Pending.ofFirst? b = some p) : p.After [b] := by
  have known : p.lower ≤ p.upper ∧ p.upper < 256 ∧ p.width = 1 ∧ p.first = b := by
    simp only [Pending.ofFirst?] at found
    split_ifs at found
    all_goals
      obtain rfl := Option.some.inj found
      simp
  obtain ⟨low, high, width, rfl⟩ := known
  exact ⟨fun _ => sequence_iff_completes found, Pending.exists_completes low high, width, rfl⟩

theorem After.next (after : p.After seen) {more : Nat} (admitted : p.admits b = true)
    (owed : p.more = more + 1) : (p.next b more).After (seen ++ [b]) := by
  constructor
  · intro tail
    rw [List.append_assoc, List.singleton_append, after.completes_iff, completes_more owed]
    exact and_iff_right admitted
  · exact Pending.exists_completes (by simp [Pending.next]) (by simp [Pending.next])
  · simp [Pending.next, after.width]
  · simp [Pending.next, List.head?_append, after.first]

theorem After.sequence (after : p.After seen) (admitted : p.admits b = true) (owed : p.more = 0) :
    Sequence (seen ++ [b]) := by
  rw [after.completes_iff, completes_last owed]
  exact ⟨admitted, rfl⟩

theorem After.opening (after : p.After seen) : Opening seen := by
  obtain ⟨tail, completed⟩ := after.exists_completes
  refine ⟨tail, ?_, (after.completes_iff tail).mpr completed⟩
  rintro rfl
  exact completed

end Pending

def FaultFrom (position : Nat) (bytes : List UInt8) (f : Fault) : Prop :=
  ∃ ahead rest, bytes = ahead ++ rest ∧ WellFormed ahead ∧ f.start = position + ahead.length ∧
    f.Tells rest

theorem Fault.Tells.faultFrom {f : Fault} {bytes : List UInt8} (tells : f.Tells bytes) :
    FaultFrom f.start bytes f :=
  ⟨[], bytes, rfl, wellFormed_nil, rfl, tells⟩

theorem FaultFrom.behind {position : Nat} {s bytes : List UInt8} {f : Fault}
    (found : FaultFrom (position + s.length) bytes f) (sequence : Sequence s) :
    FaultFrom position (s ++ bytes) f := by
  obtain ⟨ahead, rest, rfl, wellFormed, start, tells⟩ := found
  refine ⟨s ++ ahead, rest, by simp, wellFormed.behind sequence, ?_, tells⟩
  simp [start, Nat.add_assoc]

theorem opening_nil : Opening [] :=
  ⟨[0], by simp, .one (by simp)⟩

theorem tells_invalidStart {b : UInt8} (high : 0x80 ≤ b.toNat)
    (unknown : Pending.ofFirst? b = none) (position : Nat) (rest : List UInt8) :
    (⟨position, 1, b, .invalidStart⟩ : Fault).Tells (b :: rest) := by
  have dead : ∀ c ∈ (b :: rest).head?, ∀ tail, ¬ Sequence ([] ++ c :: tail) := by
    intro c first tail
    obtain rfl : b = c := Option.some.inj first
    exact not_sequence_of_ofFirst? high unknown
  exact tells_of_dead_end opening_nil dead rfl rfl rfl

theorem Pending.After.faultFrom {p : Pending} {seen behind : List UInt8} {position : Nat}
    (after : p.After seen) (dead : ∀ b ∈ behind.head?, p.admits b = false) :
    FaultFrom (position - seen.length) (seen ++ behind)
      (p.fault position (if behind = [] then .unexpectedEnd else .invalidContinuation)) := by
  have filled : seen ≠ [] := by
    rintro rfl
    simpa using after.first
  have noSequence : ∀ b ∈ behind.head?, ∀ tail, ¬ Sequence (seen ++ b :: tail) := by
    intro b first tail
    rw [after.completes_iff, Completes]
    simp [dead b first]
  have tells : (p.fault position
      (if behind = [] then .unexpectedEnd else .invalidContinuation)).Tells (seen ++ behind) := by
    apply tells_of_dead_end after.opening noSequence
    · simp [Pending.fault, List.head?_append, after.first]
    · have positive := List.length_pos_iff.mpr filled
      simp only [Pending.fault, after.width]
      omega
    · simp [Pending.fault, Reason.behind, filled]
  have start : (p.fault position
      (if behind = [] then .unexpectedEnd else .invalidContinuation)).start =
        position - seen.length := by
    rw [Pending.fault, after.width]
  exact start ▸ tells.faultFrom

-- Between characters nothing is pending, and within one the bytes seen of it come first.
theorem faultFrom_of_decodeFrom (bytes : List UInt8) (position : Nat) (f : Fault) :
    (decodeFrom position none bytes = .error f → FaultFrom position bytes f) ∧
      ∀ (p : Pending) (seen : List UInt8), p.After seen → seen.length ≤ position →
        decodeFrom position (some p) bytes = .error f →
          FaultFrom (position - seen.length) (seen ++ bytes) f := by
  induction bytes generalizing position with
  | nil =>
    constructor
    · exact fun failed => nomatch failed
    · intro p seen after enough failed
      obtain rfl := Except.error.inj failed
      exact after.faultFrom (by simp)
  | cons b rest ih =>
    constructor
    · intro failed
      by_cases ascii : b.toNat < 0x80
      · simp only [decodeFrom, ascii, if_true, map_eq_error_iff] at failed
        exact ((ih (position + 1)).1 failed).behind (.one ascii)
      · cases found : Pending.ofFirst? b with
        | none =>
          simp only [decodeFrom, ascii, found, if_false, Except.error.injEq] at failed
          obtain rfl := failed
          exact (tells_invalidStart (by omega) found position rest).faultFrom
        | some p =>
          rw [decodeFrom_first _ _ (by omega) found] at failed
          have later := (ih (position + 1)).2 p [b] (Pending.after_ofFirst? found) (by simp) failed
          simpa using later
    · intro p seen after enough failed
      cases admitted : p.admits b with
      | false =>
        simp only [decodeFrom, admitted] at failed
        obtain rfl := Except.error.inj failed
        exact after.faultFrom (by simpa using admitted)
      | true =>
        have regrouped : seen ++ b :: rest = (seen ++ [b]) ++ rest := by simp
        have there : position - seen.length + (seen ++ [b]).length = position + 1 := by
          simp only [List.length_append, List.length_singleton]
          omega
        rw [regrouped]
        cases owed : p.more with
        | zero =>
          rw [decodeFrom_last _ _ admitted owed, map_eq_error_iff] at failed
          have later := (ih (position + 1)).1 failed
          rw [← there] at later
          exact later.behind (after.sequence admitted owed)
        | succ more =>
          rw [decodeFrom_more _ _ admitted owed] at failed
          have later := (ih (position + 1)).2 (p.next b more) (seen ++ [b])
            (after.next admitted owed) (by simp [enough]) failed
          simpa using later

theorem faultFrom_of_decode {bytes : List UInt8} {f : Fault} (failed : decode bytes = .error f) :
    FaultFrom 0 bytes f :=
  (faultFrom_of_decodeFrom bytes 0 f).1 failed

end RequestBinding.Utf8
