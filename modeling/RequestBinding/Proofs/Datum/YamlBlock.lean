import RequestBinding.Datum.Basic
import RequestBinding.Proofs.Datum.YamlScalar

set_option autoImplicit false

namespace RequestBinding.Datum

open Text

def IsKey (key : Text) : Prop :=
  key.head? ≠ some ' ' ∧ key.head? ≠ some '-'

instance (key : Text) : Decidable (IsKey key) :=
  inferInstanceAs (Decidable (key.head? ≠ some ' ' ∧ key.head? ≠ some '-'))

-- Data with the same keys at the same places, no key of which starts like an item.
inductive Alike : Datum → Datum → Prop
  | null : Alike .null .null
  | bool (flag flag' : Bool) : Alike (.bool flag) (.bool flag')
  | int (n n' : Int) : Alike (.int n) (.int n')
  | text {t u : Text} : Solid t → Solid u → Alike (.text t) (.text u)
  | list {xs ys : List Datum} : (∀ x ∈ xs, ∀ y ∈ ys, Alike x y) → Alike (.list xs) (.list ys)
  | noField : Alike (.object []) (.object [])
  | field {key : Text} {v w : Datum} {fs gs : List (Text × Datum)} :
      IsKey key → Alike v w → Alike (.object fs) (.object gs) →
        Alike (.object ((key, v) :: fs)) (.object ((key, w) :: gs))

theorem Alike.symm {d e : Datum} (alike : Alike d e) : Alike e d := by
  induction alike with
  | null => exact .null
  | bool flag flag' => exact .bool flag' flag
  | int n n' => exact .int n' n
  | text solid solid' => exact .text solid' solid
  | list _ each => exact .list fun y member x member' => each x member' y member
  | noField => exact .noField
  | field isKey _ _ value others => exact .field isKey value others

-- The end of the document, or a line that adds no item to a datum at the margin.
structure Stop (margin : Nat) (rest : Text) : Prop where
  ends : LineEnds rest
  noItem : ∀ column ≥ margin, ∀ more, rest ≠ newline column ++ '-' :: more

theorem stop_nil (margin : Nat) : Stop margin [] :=
  ⟨nofun, fun _ _ _ => nofun⟩

theorem Stop.mono {margin inner : Nat} {rest : Text} (stop : Stop margin rest)
    (deeper : margin ≤ inner) : Stop inner rest :=
  ⟨stop.ends, fun column beyond => stop.noItem column (Nat.le_trans deeper beyond)⟩

theorem newline_cancel {m n : Nat} {c d : Char} {s t : Text} (shown : c ≠ ' ') (shown' : d ≠ ' ')
    (same : newline m ++ c :: s = newline n ++ d :: t) : m = n ∧ c = d := by
  have margins : spaces m ++ c :: s = spaces n ++ d :: t := (List.cons.inj same).2
  clear same
  induction m generalizing n with
  | zero =>
    cases n with
    | zero => exact ⟨rfl, (List.cons.inj margins).1⟩
    | succ n => exact absurd (List.cons.inj margins).1 shown
  | succ m ih =>
    cases n with
    | zero => exact absurd (List.cons.inj margins).1.symm shown'
    | succ n =>
      obtain ⟨same, first⟩ := ih (List.cons.inj margins).2
      exact ⟨congrArg (· + 1) same, first⟩

theorem yamlItems_cons (margin : Nat) (item : Datum) (rest : List Datum) (behind : Text) :
    yamlItems margin false (item :: rest) ++ behind =
      newline margin ++ ('-' :: ' ' :: (item.yaml (margin + 2) (margin + 2) ++
        (yamlItems margin false rest ++ behind))) := by
  simp [yamlItems, yamlBreak]

theorem yamlFields_cons (margin : Nat) (key : Text) (value : Datum) (rest : List (Text × Datum))
    (behind : Text) :
    yamlFields margin false ((key, value) :: rest) ++ behind =
      newline margin ++ (key ++ ':' :: (yamlLead margin value ++
        (value.yaml (yamlInner margin value) (margin + key.length + 2) ++
          (yamlFields margin false rest ++ behind)))) := by
  simp [yamlFields, yamlBreak]

theorem stop_yamlItems {margin : Nat} {rest : Text} (stop : Stop margin rest) (items : List Datum) :
    Stop (margin + 2) (yamlItems margin false items ++ rest) := by
  cases items with
  | nil => exact stop.mono (by omega)
  | cons item items =>
    rw [yamlItems_cons]
    constructor
    · intro c first
      exact (Option.some.inj first).symm
    · intro column beyond more same
      obtain ⟨here, -⟩ := newline_cancel (by decide) (by decide) same
      omega

theorem Alike.stop_fields {margin : Nat} {rest : Text} (stop : Stop margin rest)
    {fields others : List (Text × Datum)} (alike : Alike (.object fields) (.object others)) :
    Stop margin (yamlFields margin false fields ++ rest) := by
  cases alike with
  | noField => exact stop
  | @field key _ _ _ _ isKey =>
    rw [yamlFields_cons]
    constructor
    · intro c first
      exact (Option.some.inj first).symm
    · intro column _ more same
      cases key with
      | nil => exact absurd (newline_cancel (by decide) (by decide) same).2 (by decide)
      | cons c key =>
        have noSpace : c ≠ ' ' := fun space => isKey.1 (congrArg some space)
        obtain ⟨-, dash⟩ := newline_cancel noSpace (by decide) same
        exact isKey.2 (congrArg some dash)

theorem le_yamlInner (margin : Nat) (v : Datum) : margin ≤ yamlInner margin v := by
  unfold yamlInner
  split <;> omega

theorem yamlLead_cancel {margin : Nat} {v w : Datum} {r s : Text} (alike : Alike v w)
    (same : yamlLead margin v ++ r = yamlLead margin w ++ s) :
    yamlInner margin v = yamlInner margin w ∧ r = s := by
  cases alike with
  | @list xs ys =>
    -- A list without items stands on the line of its key, any other on lines of its own.
    cases xs <;> cases ys <;> simp_all [yamlLead, yamlInner, newline]
  | field => exact ⟨rfl, List.append_cancel_left same⟩
  | _ => exact ⟨rfl, (List.cons.inj same).2⟩

def Separable (d : Datum) : Prop :=
  ∀ {e : Datum} {margin column : Nat} {r s : Text}, Alike d e → Stop margin r → Stop margin s →
    d.yaml margin column ++ r = e.yaml margin column ++ s → d = e ∧ r = s

section Parts

variable {margin : Nat} {r s : Text} (stop : Stop margin r) (stop' : Stop margin s)
include stop stop'

theorem yamlItems_cancel {xs ys : List Datum} (each : ∀ x ∈ xs, Separable x)
    (alike : ∀ x ∈ xs, ∀ y ∈ ys, Alike x y)
    (same : yamlItems margin false xs ++ r = yamlItems margin false ys ++ s) : xs = ys ∧ r = s := by
  induction xs generalizing ys with
  | nil =>
    cases ys with
    | nil => exact ⟨rfl, same⟩
    | cons y ys =>
      rw [yamlItems_cons] at same
      exact absurd same (stop.noItem margin (Nat.le_refl _) _)
  | cons x xs ih =>
    cases ys with
    | nil =>
      rw [yamlItems_cons] at same
      exact absurd same.symm (stop'.noItem margin (Nat.le_refl _) _)
    | cons y ys =>
      obtain ⟨here, later⟩ := List.forall_mem_cons.mp each
      rw [yamlItems_cons, yamlItems_cons] at same
      have items := (List.cons.inj (List.cons.inj (List.append_cancel_left same)).2).2
      -- An item ends where the next one starts, whose dash stands further to the left.
      obtain ⟨first, behind⟩ := here (alike x (by simp) y (by simp)) (stop_yamlItems stop xs)
        (stop_yamlItems stop' ys) items
      obtain ⟨others, rest⟩ := ih later
        (fun x isRest y isRest' => alike x (by simp [isRest]) y (by simp [isRest'])) behind
      exact ⟨by rw [first, others], rest⟩

theorem yamlFields_cancel {fs gs : List (Text × Datum)} (each : ∀ f ∈ fs, Separable f.2)
    (alike : Alike (.object fs) (.object gs))
    (same : yamlFields margin false fs ++ r = yamlFields margin false gs ++ s) :
    fs = gs ∧ r = s := by
  induction fs generalizing gs with
  | nil =>
    cases alike
    exact ⟨rfl, same⟩
  | cons f fs ih =>
    obtain ⟨here, later⟩ := List.forall_mem_cons.mp each
    cases alike with
    | @field _ v w _ _ _ values others =>
      rw [yamlFields_cons, yamlFields_cons] at same
      have behindKey := (List.cons.inj (List.append_cancel_left (List.append_cancel_left same))).2
      obtain ⟨inner, written⟩ := yamlLead_cancel values behindKey
      rw [← inner] at written
      have deeper := le_yamlInner margin v
      -- A list may stand at the margin of its key, but no key is taken for one more item of it.
      obtain ⟨rfl, behind⟩ := here values ((others.stop_fields stop).mono deeper)
        ((others.symm.stop_fields stop').mono deeper) written
      obtain ⟨rest, ended⟩ := ih later others behind
      exact ⟨by rw [rest], ended⟩

end Parts

theorem separable (d : Datum) : Separable d := by
  induction d using elementInduction with
  | null =>
    intro e margin column r s alike stop stop' same
    cases alike
    exact ⟨rfl, List.append_cancel_left same⟩
  | bool flag =>
    intro e margin column r s alike stop stop' same
    cases alike with
    | bool _ flag' => cases flag <;> cases flag' <;> simp_all [yaml]
  | int n =>
    intro e margin column r s alike stop stop' same
    cases alike with
    | int _ n' =>
      rw [yaml, yaml] at same
      obtain ⟨numerals, rest⟩ := line_cancel (solid_decimal n).oneLine
        (solid_decimal n').oneLine stop.ends stop'.ends same
      exact ⟨by rw [decimal_injective numerals], rest⟩
  | text t =>
    intro e margin column r s alike stop stop' same
    cases alike with
    | text solid solid' =>
      rw [yaml, yaml] at same
      obtain ⟨texts, rest⟩ := Yaml.scalar_cancel solid solid' stop.ends stop'.ends same
      exact ⟨by rw [texts], rest⟩
  | list xs each =>
    intro e margin column r s alike stop stop' same
    cases alike with
    | @list _ ys pairs =>
      cases xs with
      | nil =>
        cases ys with
        | nil => exact ⟨rfl, List.append_cancel_left same⟩
        | cons y ys => simp [yaml, yamlItems, yamlBreak] at same
      | cons x xs =>
        cases ys with
        | nil => simp [yaml, yamlItems, yamlBreak] at same
        | cons y ys =>
          have items : yamlItems margin false (x :: xs) ++ r =
              yamlItems margin false (y :: ys) ++ s := by
            simpa [yaml, yamlItems, yamlBreak] using same
          obtain ⟨elements, rest⟩ := yamlItems_cancel stop stop' each pairs items
          exact ⟨by rw [elements], rest⟩
  | object fs each =>
    intro e margin column r s alike stop stop' same
    cases alike with
    | noField => exact ⟨rfl, List.append_cancel_left same⟩
    | @field key v w fs gs isKey values others =>
      have fields : yamlFields margin false ((key, v) :: fs) ++ r =
          yamlFields margin false ((key, w) :: gs) ++ s := by
        simpa [yaml, yamlFields, yamlBreak] using same
      obtain ⟨all, rest⟩ := yamlFields_cancel stop stop' each (.field isKey values others) fields
      exact ⟨by rw [all], rest⟩

theorem Alike.render_injective {d e : Datum} (alike : Alike d e)
    (same : Format.yaml.render d = Format.yaml.render e) : d = e := by
  have texts : d.yaml 0 0 ++ [] = e.yaml 0 0 ++ [] := by simpa [Format.render] using same
  exact (separable d alike (stop_nil 0) (stop_nil 0) texts).1

theorem endsVisibly_yamlItems {margin : Nat} (first : Bool) {items : List Datum}
    (some : items ≠ []) (each : ∀ x ∈ items, EndsVisibly (x.yaml (margin + 2) (margin + 2))) :
    EndsVisibly (yamlItems margin first items) := by
  induction items generalizing first with
  | nil => exact absurd rfl some
  | cons item rest ih =>
    obtain ⟨here, later⟩ := List.forall_mem_cons.mp each
    rw [yamlItems]
    cases rest with
    | nil =>
      rw [yamlItems, List.append_nil]
      exact here.append _
    | cons => exact (ih false (List.cons_ne_nil _ _) later).append _

theorem endsVisibly_yamlFields {margin : Nat} (first : Bool) {fields : List (Text × Datum)}
    (some : fields ≠ [])
    (each : ∀ field ∈ fields, ∀ margin column, EndsVisibly (field.2.yaml margin column)) :
    EndsVisibly (yamlFields margin first fields) := by
  induction fields generalizing first with
  | nil => exact absurd rfl some
  | cons field rest ih =>
    obtain ⟨key, value⟩ := field
    obtain ⟨here, later⟩ := List.forall_mem_cons.mp each
    rw [yamlFields]
    cases rest with
    | nil =>
      rw [yamlFields, List.append_nil]
      exact (here _ _).append _
    | cons => exact (ih false (List.cons_ne_nil _ _) later).append _

theorem Alike.values {fields : List (Text × Datum)}
    (alike : Alike (.object fields) (.object fields)) :
    ∀ field ∈ fields, Alike field.2 field.2 := by
  induction fields with
  | nil => exact nofun
  | cons field fields ih =>
    cases alike with
    | field _ value others => exact List.forall_mem_cons.mpr ⟨value, ih others⟩

theorem Alike.endsVisibly {d : Datum} (alike : Alike d d) (margin column : Nat) :
    EndsVisibly (d.yaml margin column) := by
  induction d using elementInduction generalizing margin column with
  | null => exact endsVisibly_concat "nul".toList (by decide)
  | bool flag =>
    cases flag with
    | false => exact endsVisibly_concat "fals".toList (by decide)
    | true => exact endsVisibly_concat "tru".toList (by decide)
  | int n =>
    rw [yaml]
    exact (solid_decimal n).endsVisibly (decimal_ne_nil n)
  | text t =>
    cases alike with
    | text solid =>
      rw [yaml]
      exact Yaml.endsVisibly_scalar (margin + 2) column solid
  | list items each =>
    cases alike with
    | list pairs =>
      cases items with
      | nil => exact endsVisibly_concat ['['] (by decide)
      | cons item items =>
        exact endsVisibly_yamlItems true (List.cons_ne_nil _ _) fun x member =>
          each x member (pairs x member x member) _ _
  | object fields each =>
    have values := alike.values
    cases fields with
    | nil => exact endsVisibly_concat ['\x7b'] (by decide)
    | cons field fields =>
      exact endsVisibly_yamlFields true (List.cons_ne_nil _ _) fun f member =>
        each f member (values f member)

-- The last line of a document is ended like all others.
def yamlDocument (d : Datum) : Text :=
  d.yaml 0 0 ++ ['\n']

theorem Alike.stripEnd_yamlDocument {d : Datum} (alike : Alike d d) :
    stripEnd d.yamlDocument = Format.yaml.render d :=
  stripEnd_append_blank (alike.endsVisibly 0 0) (by decide)

end RequestBinding.Datum
