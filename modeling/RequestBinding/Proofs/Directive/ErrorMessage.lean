import RequestBinding.Proofs.Directive.Violations
import RequestBinding.Proofs.Text.Quoted

set_option autoImplicit false

namespace RequestBinding

namespace DirectiveError

variable {e d : DirectiveError}

-- So many characters of a message are enough to tell what kind of error it is about.
def opening : DirectiveError → String
  | general message _ => String.ofList (message.take 9)
  | emptyInput => "empty par"
  | invalidDirective _ => "invalid d"
  | invalidPair _ => "invalid p"
  | unknownOption _ _ => "unknown o"
  | invalidLocation _ _ => "invalid l"
  | unsupportedRequestField _ _ _ => "argument "

theorem ofList_take_message (e : DirectiveError) :
    String.ofList (e.message.take 9) = e.opening := by
  cases e <;> rfl

theorem opening_eq_of_message_eq (same : e.message = d.message) : e.opening = d.opening := by
  rw [← ofList_take_message, same, ofList_take_message]

theorem invalidDirective_message_injective {segment other : Text}
    (same : (invalidDirective segment).message = (invalidDirective other).message) :
    segment = other :=
  Text.quoted_injective (List.append_cancel_left same)

theorem invalidPair_message_injective {token other : Text}
    (same : (invalidPair token).message = (invalidPair other).message) : token = other :=
  List.append_cancel_left same

theorem unknownOption_message (key token : Text) :
    (unknownOption key token).message =
      ("unknown option ".toList ++ Text.quoted key ++ " in directive argument:".toList) ++
        ' ' :: token := by
  have space : " in directive argument: ".toList = " in directive argument:".toList ++ [' '] := by
    decide
  change "unknown option ".toList ++ Text.quoted key ++ " in directive argument: ".toList ++
    token = _
  rw [space]
  simp only [List.append_assoc, List.singleton_append]

-- The token is the last word of the message, whatever blanks the quoted key has.
theorem unknownOption_message_injective {key token key' token' : Text} (solid : token.Solid)
    (solid' : token'.Solid)
    (same : (unknownOption key token).message = (unknownOption key' token').message) :
    key = key' ∧ token = token' := by
  rw [unknownOption_message, unknownOption_message] at same
  obtain ⟨fronts, tokens⟩ := solid.cancel_last_blank solid' rfl same
  have quoted : Text.quoted key = Text.quoted key' :=
    List.append_cancel_left (List.append_cancel_right fronts)
  exact ⟨Text.quoted_injective quoted, tokens⟩

theorem invalidLocation_message_injective {value other : Text} {accepted : Alternatives}
    (same : (invalidLocation value accepted).message = (invalidLocation other accepted).message) :
    value = other :=
  List.append_cancel_left
    (List.append_cancel_right (List.append_cancel_right (List.append_cancel_right same)))

theorem unsupportedRequestField_message (argName field allowed : Text) :
    (unsupportedRequestField argName field allowed).message =
      "argument \"".toList ++ ((argName ++ ['"']) ++
        ' ' :: ("tries to extract value from `request.".toList ++ (field ++
          ("`, but only `request.".toList ++ (allowed ++ "` is available".toList))))) := by
  have quote : "\" tries to extract value from `request.".toList =
      ['"'] ++ ' ' :: "tries to extract value from `request.".toList := by
    decide
  change "argument \"".toList ++ argName ++ "\" tries to extract value from `request.".toList ++
    field ++ "`, but only `request.".toList ++ allowed ++ "` is available".toList = _
  rw [quote]
  simp only [List.append_assoc, List.cons_append]

-- The name of the argument, up to the quote behind it, is the second word of the message.
theorem unsupportedRequestField_message_injective {argName field argName' field' allowed : Text}
    (solid : argName.Solid) (solid' : argName'.Solid)
    (same : (unsupportedRequestField argName field allowed).message =
      (unsupportedRequestField argName' field' allowed).message) :
    argName = argName' ∧ field = field' := by
  have closed {name : Text} (solid : name.Solid) : Text.Solid (name ++ ['"']) := by
    intro c member
    rcases List.mem_append.mp member with inside | quote
    · exact solid c inside
    · rw [List.mem_singleton.mp quote]
      rfl
  rw [unsupportedRequestField_message, unsupportedRequestField_message] at same
  obtain ⟨names, rests⟩ :=
    (closed solid).cancel_blank (closed solid') rfl (List.append_cancel_left same)
  exact ⟨List.append_cancel_right names,
    List.append_cancel_right (List.append_cancel_left rests)⟩

theorem InSegment.eq_of_message_eq (inside : e.InSegment) (inside' : d.InSegment)
    (same : e.message = d.message) : e = d := by
  have openings := opening_eq_of_message_eq same
  cases inside with
  | invalidDirective segment =>
    cases inside' with
    | invalidDirective other => rw [invalidDirective_message_injective same]
    | _ => exact absurd openings (by simp [opening])
  | invalidPair token =>
    cases inside' with
    | invalidPair other => rw [invalidPair_message_injective same]
    | _ => exact absurd openings (by simp [opening])
  | unknownOption key solid =>
    cases inside' with
    | unknownOption key' solid' =>
      obtain ⟨keys, tokens⟩ := unknownOption_message_injective solid solid' same
      rw [keys, tokens]
    | _ => exact absurd openings (by simp [opening])
  | invalidLocation value =>
    cases inside' with
    | invalidLocation other => rw [invalidLocation_message_injective same]
    | _ => exact absurd openings (by simp [opening])
  | unsupportedRequestField solid field =>
    cases inside' with
    | unsupportedRequestField solid' field' =>
      obtain ⟨names, fields⟩ := unsupportedRequestField_message_injective solid solid' same
      rw [names, fields]
    | _ => exact absurd openings (by simp [opening])

theorem InSegment.opening_ne (inside : e.InSegment) : e.opening ≠ emptyInput.opening := by
  cases inside <;> simp [opening]

end DirectiveError

namespace Directive

theorem error_of_message {text other : Text} {e d : DirectiveError}
    (failed : (parse text).outcome = .error e) (failed' : (parse other).outcome = .error d)
    (same : e.message = d.message) : e = d := by
  have openings := DirectiveError.opening_eq_of_message_eq same
  rcases emptyInput_or_inSegment failed with ⟨rfl, -⟩ | inside
  · rcases emptyInput_or_inSegment failed' with ⟨rfl, -⟩ | inside'
    · rfl
    · exact absurd openings.symm inside'.opening_ne
  · rcases emptyInput_or_inSegment failed' with ⟨rfl, -⟩ | inside'
    · exact absurd openings inside.opening_ne
    · exact inside.eq_of_message_eq inside' same

-- The key holds quotes of both kinds and a backslash, and the token a quote like the one behind it.
theorem error_of_message_quotes :
    let text : Text := "ok; b ,it's\"\\='".toList
    let other : Text := "b in=path it's\"\\=' x".toList
    let e : DirectiveError := .unknownOption "it's\"\\".toList "it's\"\\='".toList
    let d : DirectiveError := .unknownOption "it's\"\\".toList "it's\"\\='".toList
    (parse text).outcome = .error e ∧ (parse other).outcome = .error d ∧
      e.message = "unknown option 'it\\'s\"\\\\' in directive argument: it's\"\\='".toList ∧
      e.message = d.message ∧ e = d := by
  intro text other e d
  have failed : (parse text).outcome = .error e := by decide
  have failed' : (parse other).outcome = .error d := by decide
  have same : e.message = d.message := rfl
  exact ⟨failed, failed', by decide +kernel, same, error_of_message failed failed' same⟩

end Directive

end RequestBinding
