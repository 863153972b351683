import RushSocket.Data.Json.Text

namespace RushSocket.Data.Json

variable (readFloat : DecimalText → Option DecimalText)

/-! Characters back into tokens. -/

def rereadToken : Token → Option Token
  | .number value => (rereadNumber readFloat value).map .number
  | other => some other

def rereadTokens : List Token → Option (List Token)
  | [] => some []
  | token :: rest =>
      (rereadToken readFloat token).bind fun again =>
        (rereadTokens rest).map (again :: ·)

theorem rereadTokens_append (first second : List Token) :
    rereadTokens readFloat (first ++ second) =
      (rereadTokens readFloat first).bind fun left =>
        (rereadTokens readFloat second).map (left ++ ·) := by
  induction first with
  | nil => simp [rereadTokens]
  | cons token rest induction =>
      simp only [List.cons_append, rereadTokens, induction]
      cases rereadToken readFloat token with
      | none => rfl
      | some again =>
          cases rereadTokens readFloat rest with
          | none => rfl
          | some left =>
              cases rereadTokens readFloat second <;> rfl

def Token.isBareToken : Token → Bool
  | .null | .bool _ | .number _ => true
  | _ => false

theorem isBare_of_isNumberChar {char : Char} (number : isNumberChar char = true) :
    isBare char = true := by
  simp only [isNumberChar, Bool.or_eq_true, decide_eq_true_eq] at number
  rcases number with ((((digit | rfl) | rfl) | rfl) | rfl) | rfl
  · simp only [Char.isDigit, Bool.and_eq_true, decide_eq_true_eq] at digit
    have notSpecial : ∀ other : Char, (other.val < 48 ∨ 57 < other.val) →
        char ≠ other := by
      rintro other outside rfl
      rcases outside with below | above
      · exact absurd digit.1 (by simpa using below)
      · exact absurd digit.2 (by simpa using above)
    have distinct : ∀ other ∈ [' ', '\n', '\t', '\r', '[', ']', '\x7b', '\x7d', ',',
        ':', '"'], char ≠ other := by
      intro other member
      apply notSpecial
      have outside : ([' ', '\n', '\t', '\r', '[', ']', '\x7b', '\x7d', ',', ':',
          '"'].all fun other => other.val < 48 ∨ 57 < other.val) = true := by
        decide
      exact of_decide_eq_true (List.all_eq_true.mp outside other member)
    simp only [List.forall_mem_cons] at distinct
    simp [isBare, isSpace, distinct]
  all_goals decide

theorem Token.isBare_of_mem_text {token : Token} (bare : token.isBareToken = true) :
    ∀ char ∈ token.text, isBare char = true := by
  cases token with
  | null => exact List.all_eq_true.mp (by decide)
  | bool value => cases value <;> exact List.all_eq_true.mp (by decide)
  | number value =>
      intro char member
      exact isBare_of_isNumberChar (value.isNumberChar_of_mem_print char member)
  | _ => cases bare

theorem bareToken_text {token : Token} (bare : token.isBareToken = true) :
    bareToken readFloat token.text = rereadToken readFloat token := by
  cases token with
  | null => rfl
  | bool value => cases value <;> rfl
  | number value =>
      have notWord : ∀ word : List Char, word.any (fun char => !isNumberChar char) =
          true → value.print ≠ word := by
        rintro word foreign rfl
        obtain ⟨char, member, notNumber⟩ := List.any_eq_true.mp foreign
        simp [value.isNumberChar_of_mem_print char member] at notNumber
      have notTrue := notWord ['t', 'r', 'u', 'e'] (by decide)
      have notFalse := notWord ['f', 'a', 'l', 's', 'e'] (by decide)
      have notNull := notWord ['n', 'u', 'l', 'l'] (by decide)
      change bareToken readFloat value.print = _
      simp only [bareToken, notTrue, notFalse, notNull, if_false,
        Number.read_print, Option.bind_some, rereadToken]
  | _ => cases bare

theorem stepBetween_of_isBare {char : Char} (bare : isBare char = true) :
    stepBetween char = ([], .bare [char]) := by
  simp only [isBare, Bool.and_eq_true, Bool.not_eq_true', decide_eq_true_eq,
    List.mem_cons, List.not_mem_nil, or_false, not_or] at bare
  obtain ⟨notSpace, notOpenArray, notCloseArray, notOpenObject, notCloseObject,
    notComma, notColon, notQuote⟩ := bare
  have noPunctuation : punctuation char = none := by
    unfold punctuation
    split <;> first | contradiction | rfl
  simp [stepBetween, notSpace, notQuote, noPunctuation]

theorem scanFrom_bare_append {chars : List Char}
    (bare : ∀ char ∈ chars, isBare char = true) (read rest : List Char) :
    scanFrom readFloat (.bare read) (chars ++ rest) =
      scanFrom readFloat (.bare (chars.reverse ++ read)) rest := by
  induction chars generalizing read with
  | nil => rfl
  | cons char chars induction =>
      have headBare := bare char List.mem_cons_self
      simp only [List.cons_append, scanFrom, stepMode, headBare, if_true,
        Option.bind_some, List.nil_append, Option.map_id_fun', id]
      rw [induction (fun other member => bare other (List.mem_cons_of_mem _ member))]
      simp

/-- The text after a bare token begins with a character of no bare token. -/
def Boundary : List Char → Prop
  | [] => True
  | char :: _ => isBare char = false

theorem scanFrom_bare_boundary {rest : List Char} (boundary : Boundary rest)
    (read : List Char) :
    scanFrom readFloat (.bare read) rest =
      (bareToken readFloat read.reverse).bind fun token =>
        (scanFrom readFloat .between rest).map (token :: ·) := by
  cases rest with
  | nil => cases found : bareToken readFloat read.reverse <;>
      simp [scanFrom, finishMode, found]
  | cons char rest =>
      have notBare : isBare char = false := boundary
      cases found : bareToken readFloat read.reverse <;>
        simp [scanFrom, stepMode, notBare, found, Function.comp_def]

theorem scanFrom_bareToken {token : Token} (bare : token.isBareToken = true)
    {rest : List Char} (boundary : Boundary rest) :
    scanFrom readFloat .between (token.text ++ rest) =
      (rereadToken readFloat token).bind fun again =>
        (scanFrom readFloat .between rest).map (again :: ·) := by
  have allBare := Token.isBare_of_mem_text bare
  rw [← bareToken_text readFloat bare]
  cases shape : token.text with
  | nil =>
      cases token with
      | null => cases shape
      | bool value => cases value <;> cases shape
      | number value => exact absurd shape value.print_ne_nil
      | _ => cases bare
  | cons first chars =>
      rw [shape] at allBare
      have firstBare := allBare first List.mem_cons_self
      have entered : scanFrom readFloat .between (first :: chars ++ rest) =
          scanFrom readFloat (.bare [first]) (chars ++ rest) := by
        simp [scanFrom, stepMode, stepBetween_of_isBare firstBare]
      rw [entered, scanFrom_bare_append readFloat
          (fun other member => allBare other (List.mem_cons_of_mem _ member)),
        scanFrom_bare_boundary readFloat boundary]
      simp

theorem hexValue_hexDigit (value : Nat) (small : value < 16) :
    hexValue (hexDigit value) = some value := by
  interval_cases value <;> rfl

theorem scanFrom_silent {mode : Mode} (next : Mode) {char : Char}
    (step : stepMode readFloat mode char = some ([], next)) (rest : List Char) :
    scanFrom readFloat mode (char :: rest) = scanFrom readFloat next rest := by
  rw [scanFrom, step]
  simp

theorem scanFrom_simpleEscape {mark meant : Char} (notUnicode : mark ≠ 'u')
    (means : simpleEscape mark = some meant) (read rest : List Char) :
    scanFrom readFloat (.quoted read) ('\\' :: mark :: rest) =
      scanFrom readFloat (.quoted (meant :: read)) rest := by
  rw [scanFrom_silent readFloat (.escape read) rfl,
    scanFrom_silent readFloat (.quoted (meant :: read))
      (by simp [stepMode, notUnicode, means])]

theorem scanFrom_escapeChar (read rest : List Char) (char : Char) :
    scanFrom readFloat (.quoted read) (escapeChar char ++ rest) =
      scanFrom readFloat (.quoted (char :: read)) rest := by
  have ofCode : ∀ {code : Nat}, char.toNat = code → Char.ofNat code = char := by
    rintro _ rfl
    exact Char.ofNat_toNat char
  unfold escapeChar
  split
  · subst char
    exact scanFrom_simpleEscape readFloat (by decide) rfl read rest
  split
  · subst char
    exact scanFrom_simpleEscape readFloat (by decide) rfl read rest
  split
  · rename_i code
    rw [← ofCode code]
    exact scanFrom_simpleEscape readFloat (by decide) rfl read rest
  split
  · rename_i code
    rw [← ofCode code]
    exact scanFrom_simpleEscape readFloat (by decide) rfl read rest
  split
  · rename_i code
    rw [← ofCode code]
    exact scanFrom_simpleEscape readFloat (by decide) rfl read rest
  split
  · rename_i code
    rw [← ofCode code]
    exact scanFrom_simpleEscape readFloat (by decide) rfl read rest
  split
  · rename_i code
    rw [← ofCode code]
    exact scanFrom_simpleEscape readFloat (by decide) rfl read rest
  split
  · rename_i control
    have high := hexValue_hexDigit (char.toNat / 16) (by omega)
    have low := hexValue_hexDigit (char.toNat % 16) (by omega)
    have whole : ((0 * 16 + 0) * 16 + char.toNat / 16) * 16 + char.toNat % 16 =
        char.toNat := by omega
    have mode : unicodeMode read none char.toNat =
        some (.quoted (char :: read)) := by
      unfold unicodeMode
      rw [if_neg (by omega), if_neg (by omega), Char.ofNat_toNat]
    simp only [List.cons_append, List.nil_append]
    rw [scanFrom_silent readFloat (.escape read) rfl,
      scanFrom_silent readFloat (.unicode read none []) rfl,
      scanFrom_silent readFloat (.unicode read none [0]) rfl,
      scanFrom_silent readFloat (.unicode read none [0, 0]) rfl,
      scanFrom_silent readFloat (.unicode read none [char.toNat / 16, 0, 0])
        (by simp [stepMode, high]),
      scanFrom_silent readFloat (.quoted (char :: read))
        (by simp only [stepMode, low, Option.bind_some, whole, mode, Option.map_some])]
  · rename_i notQuote notBackslash _ _ _ _ _ notControl
    exact scanFrom_silent readFloat (.quoted (char :: read))
      (by simp [stepMode, notQuote, notBackslash, notControl]) rest

theorem scanFrom_escaped (chars read rest : List Char) :
    scanFrom readFloat (.quoted read) (chars.flatMap escapeChar ++ '"' :: rest) =
      (scanFrom readFloat .between rest).map
        (.string (String.ofList (read.reverse ++ chars)) :: ·) := by
  induction chars generalizing read with
  | nil => simp [scanFrom, stepMode]
  | cons char chars induction =>
      rw [List.flatMap_cons, List.append_assoc, scanFrom_escapeChar, induction]
      simp

/-- A token that is not bare is read back, whatever follows. -/
theorem scanFrom_closedToken {token : Token} (closed : token.isBareToken = false)
    (rest : List Char) :
    scanFrom readFloat .between (token.text ++ rest) =
      (scanFrom readFloat .between rest).map (token :: ·) := by
  cases token with
  | string value =>
      have opened : scanFrom readFloat .between ((Token.string value).text ++ rest) =
          scanFrom readFloat (.quoted [])
            (value.toList.flatMap escapeChar ++ '"' :: rest) := by
        simp [Token.text, scanFrom, stepMode, stepBetween, isSpace]
      rw [opened, scanFrom_escaped]
      simp
  | null | bool | number => cases closed
  | openArray | closeArray | openObject | closeObject | comma | colon => rfl

/-- Every bare token is followed by a token that is not. -/
def Spaced : List Token → Prop
  | [] => True
  | [_] => True
  | token :: next :: rest =>
      (token.isBareToken = true → next.isBareToken = false) ∧
        Spaced (next :: rest)

theorem boundary_text {token : Token} (closed : token.isBareToken = false)
    (rest : List Char) : Boundary (token.text ++ rest) := by
  cases token with
  | null | bool | number => cases closed
  | string | openArray | closeArray | openObject | closeObject | comma | colon => rfl

theorem scanFrom_tokens {tokens : List Token} (spaced : Spaced tokens) :
    scanFrom readFloat .between (tokens.flatMap Token.text) =
      rereadTokens readFloat tokens := by
  induction tokens with
  | nil => rfl
  | cons token rest induction =>
      have restSpaced : Spaced rest := by
        cases rest with
        | nil => trivial
        | cons next rest => exact spaced.2
      rw [List.flatMap_cons]
      cases bare : token.isBareToken with
      | true =>
          have boundary : Boundary (rest.flatMap Token.text) := by
            cases rest with
            | nil => trivial
            | cons next rest =>
                rw [List.flatMap_cons]
                exact boundary_text (spaced.1 bare) _
          rw [scanFrom_bareToken readFloat bare boundary, induction restSpaced]
          rfl
      | false =>
          rw [scanFrom_closedToken readFloat bare, induction restSpaced]
          cases token with
          | null | bool | number => cases bare
          | _ => rfl

/-! The tokens of a document. -/

def Closed : List Token → Prop
  | [] => True
  | token :: _ => token.isBareToken = false

theorem spaced_cons {token : Token} (closed : token.isBareToken = false)
    {rest : List Token} (spaced : Spaced rest) : Spaced (token :: rest) := by
  cases rest with
  | nil => trivial
  | cons next rest => exact ⟨by simp [closed], spaced⟩

theorem spaced_append {first second : List Token} (spacedFirst : Spaced first)
    (spacedSecond : Spaced second) (closed : Closed second) :
    Spaced (first ++ second) := by
  induction first with
  | nil => exact spacedSecond
  | cons token rest induction =>
      cases rest with
      | nil =>
          cases second with
          | nil => trivial
          | cons next second => exact ⟨fun _ => closed, spacedSecond⟩
      | cons next rest => exact ⟨spacedFirst.1, induction spacedFirst.2⟩

theorem closed_tailItems (items : List Json) {rest : List Token}
    (closed : Closed rest) : Closed (tokens.tailItems items ++ rest) := by
  cases items with
  | nil => exact closed
  | cons item items => rfl

theorem closed_tailFields (fields : List (String × Json)) {rest : List Token}
    (closed : Closed rest) : Closed (tokens.tailFields fields ++ rest) := by
  cases fields with
  | nil => exact closed
  | cons field fields => rfl

mutual
theorem spaced_tokens : (json : Json) → Spaced json.tokens
  | .null | .bool _ | .number _ | .string _ => trivial
  | .array [] | .object [] => ⟨by decide, trivial⟩
  | .array (item :: rest) => by
      simp only [tokens, List.cons_append, List.append_assoc]
      exact spaced_cons rfl (spaced_append (spaced_tokens item)
        (spaced_tailItems rest trivial rfl)
        (closed_tailItems rest rfl))
  | .object ((key, value) :: rest) => by
      simp only [tokens, List.cons_append, List.append_assoc]
      exact spaced_cons rfl (spaced_cons rfl (spaced_cons rfl
        (spaced_append (spaced_tokens value) (spaced_tailFields rest trivial rfl)
          (closed_tailFields rest rfl))))

theorem spaced_tailItems : (items : List Json) → {rest : List Token} →
    Spaced rest → Closed rest → Spaced (tokens.tailItems items ++ rest)
  | [], _, spaced, _ => spaced
  | item :: items, rest, spaced, closed => by
      simp only [tokens.tailItems, List.cons_append, List.append_assoc]
      exact spaced_cons rfl (spaced_append (spaced_tokens item)
        (spaced_tailItems items spaced closed) (closed_tailItems items closed))

theorem spaced_tailFields : (fields : List (String × Json)) → {rest : List Token} →
    Spaced rest → Closed rest → Spaced (tokens.tailFields fields ++ rest)
  | [], _, spaced, _ => spaced
  | (key, value) :: fields, rest, spaced, closed => by
      simp only [tokens.tailFields, List.cons_append, List.append_assoc]
      exact spaced_cons rfl (spaced_cons rfl (spaced_cons rfl
        (spaced_append (spaced_tokens value)
          (spaced_tailFields fields spaced closed)
          (closed_tailFields fields closed))))
end

mutual
theorem rereadTokens_tokens : (json : Json) →
    rereadTokens readFloat json.tokens = (json.reread readFloat).map tokens
  | .null | .bool _ | .string _ => rfl
  | .number value => by
      simp only [tokens, rereadTokens, rereadToken, reread]
      cases rereadNumber readFloat value <;> rfl
  | .array [] | .object [] => rfl
  | .array (item :: rest) => by
      have head := rereadTokens_tokens item
      have tail := rereadTokens_tailItems rest
      simp only [tokens, List.cons_append, rereadTokens, rereadToken,
        rereadTokens_append, head, tail, reread, reread.rereadItems,
        Option.bind_some]
      cases item.reread readFloat with
      | none => rfl
      | some again => cases reread.rereadItems readFloat rest <;> rfl
  | .object ((key, value) :: rest) => by
      have head := rereadTokens_tokens value
      have tail := rereadTokens_tailFields rest
      simp only [tokens, List.cons_append, rereadTokens, rereadToken,
        rereadTokens_append, head, tail, reread, reread.rereadFields,
        Option.bind_some]
      cases value.reread readFloat with
      | none => rfl
      | some again => cases reread.rereadFields readFloat rest <;> rfl

theorem rereadTokens_tailItems : (items : List Json) →
    rereadTokens readFloat (tokens.tailItems items) =
      (reread.rereadItems readFloat items).map tokens.tailItems
  | [] => rfl
  | item :: rest => by
      have head := rereadTokens_tokens item
      have tail := rereadTokens_tailItems rest
      simp only [tokens.tailItems, List.cons_append, rereadTokens, rereadToken,
        rereadTokens_append, head, tail, reread.rereadItems, Option.bind_some]
      cases item.reread readFloat with
      | none => rfl
      | some again => cases reread.rereadItems readFloat rest <;> rfl

theorem rereadTokens_tailFields : (fields : List (String × Json)) →
    rereadTokens readFloat (tokens.tailFields fields) =
      (reread.rereadFields readFloat fields).map tokens.tailFields
  | [] => rfl
  | (key, value) :: rest => by
      have head := rereadTokens_tokens value
      have tail := rereadTokens_tailFields rest
      simp only [tokens.tailFields, List.cons_append, rereadTokens, rereadToken,
        rereadTokens_append, head, tail, reread.rereadFields, Option.bind_some]
      cases value.reread readFloat with
      | none => rfl
      | some again => cases reread.rereadFields readFloat rest <;> rfl
end

/-! Tokens back into the document. -/

theorem feedAll_append (reading : Reading) (first second : List Token) :
    feedAll reading (first ++ second) =
      (feedAll reading first).bind fun next => feedAll next second := by
  induction first generalizing reading with
  | nil => rfl
  | cons token rest induction =>
      simp only [List.cons_append, feedAll]
      cases feed reading token with
      | none => rfl
      | some next => exact induction next

/-- Reading a value completes it when it is not nested too deep, and fails
otherwise. -/
def readValue (frames : List Frame) (json : Json) : Option Reading :=
  if json.depth + frames.length ≤ recursionLimit then some ⟨frames, .done json⟩
  else none

theorem tokens_head (json : Json) :
    ∃ token rest, json.tokens = token :: rest ∧ token ≠ .closeArray := by
  cases json with
  | null | bool | number | string => exact ⟨_, _, rfl, by simp⟩
  | array items => cases items <;> exact ⟨_, _, rfl, by simp⟩
  | object fields => cases fields <;> exact ⟨_, _, rfl, by simp⟩

theorem feedAll_firstItem (frames : List Frame) (json : Json) :
    feedAll ⟨frames, .firstItem⟩ json.tokens =
      feedAll ⟨frames, .value⟩ json.tokens := by
  obtain ⟨token, rest, shape, notClose⟩ := tokens_head json
  have same : feed ⟨frames, .firstItem⟩ token = feed ⟨frames, .value⟩ token := by
    unfold feed
    split <;> simp_all
  rw [shape, feedAll, feedAll, same]

mutual
theorem feedAll_tokens : (json : Json) → (frames : List Frame) →
    frames.length ≤ recursionLimit →
      feedAll ⟨frames, .value⟩ json.tokens = readValue frames json
  | .null, frames, within | .bool _, frames, within | .number _, frames, within
  | .string _, frames, within => by
      simp [readValue, depth, within, tokens, feedAll, feed, feedValue]
  | .array [], frames, within => by
      by_cases room : frames.length < recursionLimit
      · have fits : 1 + frames.length ≤ recursionLimit := by omega
        simp [readValue, depth, depth.depthItems, tokens, feedAll, feed, feedValue,
          room, fits]
      · have full : ¬ 1 + frames.length ≤ recursionLimit := by omega
        simp [readValue, depth, depth.depthItems, tokens, feedAll, feed, feedValue,
          room, full]
  | .object [], frames, within => by
      by_cases room : frames.length < recursionLimit
      · have fits : 1 + frames.length ≤ recursionLimit := by omega
        simp [readValue, depth, depth.depthFields, tokens, feedAll, feed, feedValue,
          room, fits]
      · have full : ¬ 1 + frames.length ≤ recursionLimit := by omega
        simp [readValue, depth, depth.depthFields, tokens, feedAll, feed, feedValue,
          room, full]
  | .array (item :: rest), frames, within => by
      by_cases room : frames.length < recursionLimit
      · have opened : feedAll ⟨frames, .value⟩ (.array (item :: rest) : Json).tokens =
            (feedAll ⟨.array [] :: frames, .firstItem⟩ item.tokens).bind fun next =>
              feedAll next (tokens.tailItems rest ++ [.closeArray]) := by
          rw [tokens, List.cons_append, List.cons_append, List.append_assoc, feedAll,
            ← feedAll_append]
          simp [feed, feedValue, room]
        rw [opened, feedAll_firstItem,
          feedAll_tokens item (.array [] :: frames) room, readValue]
        by_cases fits : item.depth + (frames.length + 1) ≤ recursionLimit
        · rw [List.length_cons, if_pos fits, Option.bind_some,
            feedAll_tailItems rest frames [] item room]
          by_cases restFits : depth.depthItems rest + (frames.length + 1) ≤
              recursionLimit
          · rw [if_pos restFits, readValue, if_pos (by
              simp only [depth, depth.depthItems]
              omega)]
            simp
          · rw [if_neg restFits, readValue, if_neg (by
              simp only [depth, depth.depthItems]
              omega)]
        · rw [List.length_cons, if_neg fits, Option.bind_none, readValue, if_neg (by
            simp only [depth, depth.depthItems]
            omega)]
      · rw [tokens, List.cons_append, List.cons_append, feedAll, readValue, if_neg (by
          simp only [depth, depth.depthItems]
          omega)]
        simp [feed, feedValue, room]
  | .object ((key, value) :: rest), frames, within => by
      by_cases room : frames.length < recursionLimit
      · have opened : feedAll ⟨frames, .value⟩
            (.object ((key, value) :: rest) : Json).tokens =
            (feedAll ⟨.object [] key :: frames, .value⟩ value.tokens).bind fun next =>
              feedAll next (tokens.tailFields rest ++ [.closeObject]) := by
          rw [← feedAll_append, tokens]
          simp [feedAll, feed, feedValue, room]
        rw [opened, feedAll_tokens value (.object [] key :: frames) room, readValue]
        by_cases fits : value.depth + (frames.length + 1) ≤ recursionLimit
        · rw [List.length_cons, if_pos fits, Option.bind_some,
            feedAll_tailFields rest frames [] key value room]
          by_cases restFits : depth.depthFields rest + (frames.length + 1) ≤
              recursionLimit
          · rw [if_pos restFits, readValue, if_pos (by
              simp only [depth, depth.depthFields]
              omega)]
            simp
          · rw [if_neg restFits, readValue, if_neg (by
              simp only [depth, depth.depthFields]
              omega)]
        · rw [List.length_cons, if_neg fits, Option.bind_none, readValue, if_neg (by
            simp only [depth, depth.depthFields]
            omega)]
      · rw [readValue, if_neg (by
          simp only [depth, depth.depthFields]
          omega), tokens]
        simp [feedAll, feed, feedValue, room]

theorem feedAll_tailItems : (items : List Json) → (frames : List Frame) →
    (read : List Json) → (json : Json) → frames.length < recursionLimit →
      feedAll ⟨.array read :: frames, .done json⟩
          (tokens.tailItems items ++ [.closeArray]) =
        if depth.depthItems items + (frames.length + 1) ≤ recursionLimit then
          some ⟨frames, .done (.array (read.reverse ++ json :: items))⟩
        else none
  | [], frames, read, json, room => by
      rw [if_pos (by simp only [depth.depthItems]; omega)]
      simp [tokens.tailItems, feedAll, feed]
  | item :: rest, frames, read, json, room => by
      have separated : feedAll ⟨.array read :: frames, .done json⟩
          (tokens.tailItems (item :: rest) ++ [.closeArray]) =
          (feedAll ⟨.array (json :: read) :: frames, .value⟩ item.tokens).bind
            fun next => feedAll next (tokens.tailItems rest ++ [.closeArray]) := by
        rw [← feedAll_append, tokens.tailItems]
        simp [feedAll, feed]
      rw [separated, feedAll_tokens item (.array (json :: read) :: frames) room,
        readValue]
      by_cases fits : item.depth + (frames.length + 1) ≤ recursionLimit
      · rw [List.length_cons, if_pos fits, Option.bind_some,
          feedAll_tailItems rest frames (json :: read) item room]
        by_cases restFits : depth.depthItems rest + (frames.length + 1) ≤
            recursionLimit
        · rw [if_pos restFits, if_pos (by simp only [depth.depthItems]; omega)]
          simp
        · rw [if_neg restFits, if_neg (by simp only [depth.depthItems]; omega)]
      · rw [List.length_cons, if_neg fits, Option.bind_none,
          if_neg (by simp only [depth.depthItems]; omega)]

theorem feedAll_tailFields : (fields : List (String × Json)) →
    (frames : List Frame) → (read : List (String × Json)) → (key : String) →
    (json : Json) → frames.length < recursionLimit →
      feedAll ⟨.object read key :: frames, .done json⟩
          (tokens.tailFields fields ++ [.closeObject]) =
        if depth.depthFields fields + (frames.length + 1) ≤ recursionLimit then
          some ⟨frames, .done (.object (read.reverse ++ (key, json) :: fields))⟩
        else none
  | [], frames, read, key, json, room => by
      rw [if_pos (by simp only [depth.depthFields]; omega)]
      simp [tokens.tailFields, feedAll, feed]
  | (next, value) :: rest, frames, read, key, json, room => by
      have separated : feedAll ⟨.object read key :: frames, .done json⟩
          (tokens.tailFields ((next, value) :: rest) ++ [.closeObject]) =
          (feedAll ⟨.object ((key, json) :: read) next :: frames, .value⟩
            value.tokens).bind
            fun reading => feedAll reading
              (tokens.tailFields rest ++ [.closeObject]) := by
        rw [← feedAll_append, tokens.tailFields]
        simp [feedAll, feed]
      rw [separated,
        feedAll_tokens value (.object ((key, json) :: read) next :: frames) room,
        readValue]
      by_cases fits : value.depth + (frames.length + 1) ≤ recursionLimit
      · rw [List.length_cons, if_pos fits, Option.bind_some,
          feedAll_tailFields rest frames ((key, json) :: read) next value room]
        by_cases restFits : depth.depthFields rest + (frames.length + 1) ≤
            recursionLimit
        · rw [if_pos restFits, if_pos (by simp only [depth.depthFields]; omega)]
          simp
        · rw [if_neg restFits, if_neg (by simp only [depth.depthFields]; omega)]
      · rw [List.length_cons, if_neg fits, Option.bind_none,
          if_neg (by simp only [depth.depthFields]; omega)]
end

theorem ofTokens_tokens (json : Json) :
    ofTokens json.tokens =
      if json.depth ≤ recursionLimit then some json else none := by
  rw [ofTokens, feedAll_tokens json [] (Nat.zero_le _), readValue]
  by_cases fits : json.depth ≤ recursionLimit
  · simp [fits]
  · simp [fits]

/-- What is read back from the text of a document: the document with its
numbers read again, unless it is nested too deep. -/
theorem parse_print (json : Json) :
    parse readFloat json.print =
      (json.reread readFloat).bind fun again =>
        if again.depth ≤ recursionLimit then some again else none := by
  rw [parse, print, String.toList_ofList,
    scanFrom_tokens readFloat (spaced_tokens json), rereadTokens_tokens,
    Option.bind_map]
  congr 1
  funext again
  exact ofTokens_tokens again

theorem parse_print_eq_some_iff (json : Json) :
    parse readFloat json.print = some json ↔
      json.reread readFloat = some json ∧ json.depth ≤ recursionLimit := by
  rw [parse_print, Option.bind_eq_some_iff]
  constructor
  · rintro ⟨again, reread, fits⟩
    split at fits
    · rename_i within
      cases fits
      exact ⟨reread, within⟩
    · cases fits
  · rintro ⟨reread, fits⟩
    exact ⟨json, reread, by rw [if_pos fits]⟩

/-! Reading the numbers again changes nothing else. -/

theorem rereadFields_cons_eq_some {key : String} {value : Json}
    {rest again : List (String × Json)} :
    reread.rereadFields readFloat ((key, value) :: rest) = some again ↔
      ∃ valueAgain restAgain, value.reread readFloat = some valueAgain ∧
        reread.rereadFields readFloat rest = some restAgain ∧
        again = (key, valueAgain) :: restAgain := by
  simp only [reread.rereadFields, Option.bind_eq_some_iff, Option.map_eq_some_iff]
  constructor
  · rintro ⟨valueAgain, valueRead, restAgain, restRead, rfl⟩
    exact ⟨valueAgain, restAgain, valueRead, restRead, rfl⟩
  · rintro ⟨valueAgain, restAgain, valueRead, restRead, rfl⟩
    exact ⟨valueAgain, valueRead, restAgain, restRead, rfl⟩

theorem keys_rereadFields {fields again : List (String × Json)}
    (read : reread.rereadFields readFloat fields = some again) :
    again.map Prod.fst = fields.map Prod.fst := by
  induction fields generalizing again with
  | nil =>
      cases read
      rfl
  | cons field rest induction =>
      obtain ⟨key, value⟩ := field
      obtain ⟨valueAgain, restAgain, _, restRead, rfl⟩ :=
        (rereadFields_cons_eq_some readFloat).mp read
      simp [induction restRead]

mutual
theorem depth_reread : (json : Json) → {again : Json} →
    json.reread readFloat = some again → again.depth = json.depth
  | .null, _, read | .bool _, _, read | .string _, _, read => by
      cases read
      rfl
  | .number _, _, read => by
      obtain ⟨_, _, rfl⟩ := Option.map_eq_some_iff.mp read
      rfl
  | .array items, _, read => by
      obtain ⟨again, itemsRead, rfl⟩ := Option.map_eq_some_iff.mp read
      simp [depth, depthItems_reread items itemsRead]
  | .object fields, _, read => by
      obtain ⟨again, fieldsRead, rfl⟩ := Option.map_eq_some_iff.mp read
      simp [depth, depthFields_reread fields fieldsRead]

theorem depthItems_reread : (items : List Json) → {again : List Json} →
    reread.rereadItems readFloat items = some again →
      depth.depthItems again = depth.depthItems items
  | [], _, read => by
      cases read
      rfl
  | item :: rest, _, read => by
      simp only [reread.rereadItems, Option.bind_eq_some_iff,
        Option.map_eq_some_iff] at read
      obtain ⟨itemAgain, itemRead, restAgain, restRead, rfl⟩ := read
      simp [depth.depthItems, depth_reread item itemRead,
        depthItems_reread rest restRead]

theorem depthFields_reread : (fields : List (String × Json)) →
    {again : List (String × Json)} →
    reread.rereadFields readFloat fields = some again →
      depth.depthFields again = depth.depthFields fields
  | [], _, read => by
      cases read
      rfl
  | (key, value) :: rest, _, read => by
      obtain ⟨valueAgain, restAgain, valueRead, restRead, rfl⟩ :=
        (rereadFields_cons_eq_some readFloat).mp read
      simp [depth.depthFields, depth_reread value valueRead,
        depthFields_reread rest restRead]
end

mutual
theorem canonical_reread : (json : Json) → {again : Json} →
    json.reread readFloat = some again → again.canonical = json.canonical
  | .null, _, read | .bool _, _, read | .string _, _, read => by
      cases read
      rfl
  | .number _, _, read => by
      obtain ⟨_, _, rfl⟩ := Option.map_eq_some_iff.mp read
      rfl
  | .array items, _, read => by
      obtain ⟨again, itemsRead, rfl⟩ := Option.map_eq_some_iff.mp read
      exact canonicalItems_reread items itemsRead
  | .object fields, _, read => by
      obtain ⟨again, fieldsRead, rfl⟩ := Option.map_eq_some_iff.mp read
      simp [canonical, ascending, keys_rereadFields readFloat fieldsRead,
        canonicalFields_reread fields fieldsRead]

theorem canonicalItems_reread : (items : List Json) → {again : List Json} →
    reread.rereadItems readFloat items = some again →
      canonical.canonicalItems again = canonical.canonicalItems items
  | [], _, read => by
      cases read
      rfl
  | item :: rest, _, read => by
      simp only [reread.rereadItems, Option.bind_eq_some_iff,
        Option.map_eq_some_iff] at read
      obtain ⟨itemAgain, itemRead, restAgain, restRead, rfl⟩ := read
      simp [canonical.canonicalItems, canonical_reread item itemRead,
        canonicalItems_reread rest restRead]

theorem canonicalFields_reread : (fields : List (String × Json)) →
    {again : List (String × Json)} →
    reread.rereadFields readFloat fields = some again →
      canonical.canonicalFields again = canonical.canonicalFields fields
  | [], _, read => by
      cases read
      rfl
  | (key, value) :: rest, _, read => by
      obtain ⟨valueAgain, restAgain, valueRead, restRead, rfl⟩ :=
        (rereadFields_cons_eq_some readFloat).mp read
      simp [canonical.canonicalFields, canonical_reread value valueRead,
        canonicalFields_reread rest restRead]
end

theorem rereadFields_self_iff {fields : List (String × Json)} :
    reread.rereadFields readFloat fields = some fields ↔
      ∀ entry ∈ fields, entry.2.reread readFloat = some entry.2 := by
  induction fields with
  | nil => simp [reread.rereadFields]
  | cons field rest induction =>
      obtain ⟨key, value⟩ := field
      rw [rereadFields_cons_eq_some, List.forall_mem_cons, ← induction]
      constructor
      · rintro ⟨valueAgain, restAgain, valueRead, restRead, same⟩
        cases same
        exact ⟨valueRead, restRead⟩
      · rintro ⟨valueRead, restRead⟩
        exact ⟨value, rest, valueRead, restRead, rfl⟩

theorem mem_rereadFields {fields again : List (String × Json)}
    (read : reread.rereadFields readFloat fields = some again)
    {key : String} {value : Json} (member : (key, value) ∈ fields) :
    ∃ valueAgain, (key, valueAgain) ∈ again ∧
      value.reread readFloat = some valueAgain := by
  induction fields generalizing again with
  | nil => cases member
  | cons field rest induction =>
      obtain ⟨headKey, head⟩ := field
      obtain ⟨headAgain, restAgain, headRead, restRead, rfl⟩ :=
        (rereadFields_cons_eq_some readFloat).mp read
      rcases List.mem_cons.mp member with first | later
      · cases first
        exact ⟨headAgain, List.mem_cons_self, headRead⟩
      · obtain ⟨valueAgain, inRest, valueRead⟩ := induction restRead later
        exact ⟨valueAgain, List.mem_cons_of_mem _ inRest, valueRead⟩

theorem depthFields_le_iff {fields : List (String × Json)} {bound : Nat} :
    depth.depthFields fields ≤ bound ↔ ∀ entry ∈ fields, entry.2.depth ≤ bound := by
  induction fields with
  | nil => simp [depth.depthFields]
  | cons field rest induction =>
      obtain ⟨key, value⟩ := field
      simp [depth.depthFields, induction]

end RushSocket.Data.Json
