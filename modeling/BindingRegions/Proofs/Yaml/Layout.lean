import BindingRegions.Proofs.Yaml.Literal
import BindingRegions.Proofs.Yaml.PlainScalar
import BindingRegions.Proofs.Yaml.Quotes
import BindingRegions.Yaml.Layout

/-! The fields of block mappings read into tokens. Between two tokens of such a mapping no node is
pending, unless it is a key in front of its colon, so a state is a place, the columns of the open
blocks, whether a key may come next, and the tokens so far. -/

namespace BindingRegions.Yaml

open ScalarText

namespace Layout

/-- The state between two tokens. -/
def between (here : Cursor) (indent : Int) (outer : List Int) (keyAllowed : Bool)
    (tokens : List Token) : Layout :=
  { here, indent, outerIndents := outer, keyAllowed, tokens, count := tokens.length }

variable {here : Cursor} {indent : Int} {outer : List Int} {keyAllowed : Bool} {tokens : List Token}
  {s t : Layout} {k fuel : Nat} {c : Char} {tail name : List Char}

/-! ### Up to the next token -/

/-- The state at the next token. -/
def settle (s : Layout) : Layout := skipToToken (s.here.size + 1) s

/-- A text that starts with a token, or is empty. -/
def StartsToken (chars : List Char) : Prop :=
  ∀ c ∈ chars.head?, endsWord (some c) = false ∧ c ≠ '#' ∧ c ≠ '\ufeff'

theorem startsToken_cons (h : endsWord (some c) = false ∧ c ≠ '#' ∧ c ≠ '\ufeff') :
    StartsToken (c :: tail) := by
  rintro d hd
  obtain rfl := Option.some.inj hd
  exact h

theorem skipToToken_spaces (hrest : s.here.rest = spaces k ++ tail) (htail : StartsToken tail) :
    skipToToken (fuel + 1) s = { s with here := s.here.past (spaces k) } := by
  have hbom : s.here.peek ≠ some '\ufeff' := by
    intro h
    cases k with
    | zero => exact (htail '\ufeff' (by simpa [Cursor.peek, hrest] using h)).2.2 rfl
    | succ k => simp [Cursor.peek, hrest, spaces_succ] at h
  have hmid := Cursor.rest_past hrest
  have hcomment : (s.here.past (spaces k)).peek ≠ some '#' := by
    rw [Cursor.peek, hmid]
    exact fun h => (htail '#' h).2.1 rfl
  have hend : (s.here.past (spaces k)).lineBreak? = none :=
    Cursor.lineBreak?_of_not_break (by
      rw [hmid]
      exact fun c hc => (endsWord_eq_false_iff.1 (htail c hc).1).2)
  have hskip : ∀ tabs : Bool,
      s.here.skipWhile (fun c => c = ' ' || (c = '\t' && tabs)) = s.here.past (spaces k) := by
    intro tabs
    refine Cursor.skipWhile_eq hrest (fun c hc => by simp [eq_space_of_mem_spaces hc]) (fun c hc => ?_)
      isBreak_spaces
    simp [ne_of_endsWord (htail c hc).1 (d := ' ') (by decide),
      ne_of_endsWord (htail c hc).1 (d := '\t') (by decide)]
  rw [skipToToken]
  simp [hbom, hskip, hcomment, hend]

theorem settle_spaces (hrest : s.here.rest = spaces k ++ tail) (htail : StartsToken tail) :
    settle s = { s with here := s.here.past (spaces k) } :=
  skipToToken_spaces hrest htail

theorem settle_self (hrest : s.here.rest = tail) (htail : StartsToken tail) : settle s = s :=
  settle_spaces (k := 0) hrest htail

/-- Behind a newline a key is allowed. -/
theorem settle_line (hrest : here.rest = '\n' :: (spaces k ++ tail)) (htail : StartsToken tail)
    (hsize : here.rest.length ≤ here.size) :
    settle (between here indent outer keyAllowed tokens) =
      between (here.past ('\n' :: spaces k)) indent outer true tokens := by
  have hskip : ∀ tabs : Bool, here.skipWhile (fun c => c = ' ' || (c = '\t' && tabs)) = here := by
    intro tabs
    exact Cursor.skipWhile_eq_self (by simp [hrest])
  have hend := Cursor.lineBreak?_of_break hrest (by decide) (by decide)
  obtain ⟨fuel, hfuel⟩ : ∃ n, here.size = n + 1 := ⟨here.size - 1, by
    rw [hrest, List.length_cons] at hsize
    omega⟩
  have hbehind : (here.past ['\n']).rest = spaces k ++ tail := Cursor.rest_past hrest
  have hsettle : settle (between here indent outer keyAllowed tokens) =
      skipToToken (fuel + 1) (between (here.past ['\n']) indent outer true tokens) := by
    rw [settle, show (between here indent outer keyAllowed tokens).here.size = fuel + 1 from hfuel, skipToToken]
    simp [between, Cursor.peek_eq hrest, hskip, hend, inFlow]
  exact hsettle.trans (skipToToken_spaces hbehind htail)

/-- The state in which the next token is read: blocks right of its column are closed. -/
def ready (s : Layout) : Except SyntaxFault Layout := do
  return (← (settle s).dropStale).closeBlocks (settle s).here.column

theorem readAll_eq (h : ready s = .ok t) :
    readAll (fuel + 1) s =
      match t.here.peek with
      | none => t.endBlocks
      | some c => (t.readToken c).bind (readAll fuel) := by
  rw [ready] at h
  rw [readAll, ← settle]
  cases hdrop : (settle s).dropStale with
  | error fault => simp [hdrop] at h
  | ok s' =>
    obtain rfl : s'.closeBlocks (settle s).here.column = t := by simpa [hdrop] using h
    rfl

/-- Reading takes some steps from one state to another. -/
def Reaches (n : Nat) (s t : Layout) : Prop := ∀ fuel, readAll (fuel + n) s = readAll fuel t

theorem Reaches.trans {m n : Nat} {u : Layout} (h : Reaches m s t) (h' : Reaches n t u) :
    Reaches (m + n) s u := fun fuel => by
  rw [Nat.add_comm m, ← Nat.add_assoc, h, h']

theorem reaches_token {s' : Layout} (h : ready s = .ok t) (hpeek : t.here.peek = some c)
    (htoken : t.readToken c = .ok s') : Reaches 1 s s' := fun fuel => by
  simp only [readAll_eq h, hpeek, htoken]
  rfl

theorem dropStale_between :
    (between here indent outer keyAllowed tokens).dropStale =
      .ok (between here indent outer keyAllowed tokens) := rfl

theorem closeBlocks_go_of_le {column : Int} (h : t.indent ≤ column) (outer : List Int) :
    closeBlocks.go column outer t = t := by
  cases outer with
  | nil => rfl
  | cons _ rest => rw [closeBlocks.go, if_neg (by omega)]

theorem ready_of_settle (h : settle s = between here indent outer keyAllowed tokens)
    (hcolumn : indent ≤ here.column) :
    ready s = .ok (between here indent outer keyAllowed tokens) := by
  rw [ready, h, dropStale_between]
  exact congrArg Except.ok (closeBlocks_go_of_le hcolumn outer)

/-- Back at the column of the block around, the inner one ends. -/
theorem ready_of_settle_back {column : Int}
    (h : settle s = between here indent (column :: outer) keyAllowed tokens)
    (hindent : here.column < indent) (hcolumn : column ≤ here.column) :
    ready s = .ok (between here column outer keyAllowed (.blockEnd :: tokens)) := by
  have hclose : (between here indent (column :: outer) keyAllowed tokens).closeBlocks here.column =
      closeBlocks.go here.column outer (between here column outer keyAllowed (.blockEnd :: tokens)) := by
    rw [closeBlocks]
    exact if_pos hindent
  rw [ready, h, dropStale_between]
  exact congrArg Except.ok (hclose.trans (closeBlocks_go_of_le hcolumn outer))

/-! ### Plain scalars as tokens -/

theorem atMark_eq_false {here : Cursor} {d : Char} {mark : List Char} (hrest : here.rest = c :: tail)
    (hline : here.column = 0 → c ≠ d) : here.atMark (d :: mark) = false := by
  by_cases hcolumn : here.column = 0
  · exact Cursor.atMark_of_head hrest (hline hcolumn)
  · simp [Cursor.atMark, hcolumn]

/-- A character that starts a plain scalar, perhaps because a word goes on behind it. -/
theorem readToken_plain (hrest : s.here.rest = c :: tail) (hflow : s.inFlow = false)
    (hline : s.here.column = 0 → c ≠ '-' ∧ c ≠ '.')
    (hc : c ∉ "#,[]\x7b\x7d&*!|>'\"%@\x60".toList) (hblank : isBlank c = false)
    (hword : c = '?' ∨ c = ':' ∨ c = '-' → endsWord tail.head? = false) :
    s.readToken c = s.readPlainScalar := by
  have hne : ∀ d ∈ "#,[]\x7b\x7d&*!|>'\"%@\x60".toList, c ≠ d := fun d hd h => hc (h ▸ hd)
  have hdirective : c ≠ '%' := hne '%' (by decide)
  have hahead : s.here.ahead 1 = tail.head? := by
    rw [Cursor.ahead, hrest, List.getElem?_cons_succ, List.head?_eq_getElem?]
  have hmark : ∀ d, (s.here.column = 0 → c ≠ d) → s.here.atMark [d, d, d] = false :=
    fun d => atMark_eq_false hrest
  -- Three of the indicators start a plain scalar where a word goes on behind them.
  have hindicator : isIndicator c = true → c = '?' ∨ c = ':' ∨ c = '-' := by
    rw [isIndicator, String.contains_char_eq, decide_eq_true_eq]
    have hsplit : ∀ d ∈ "-?:,[]\x7b\x7d#&*!|>'\"%@\x60".toList,
        (d = '?' ∨ d = ':' ∨ d = '-') ∨ d ∈ "#,[]\x7b\x7d&*!|>'\"%@\x60".toList :=
      forall_mem_of_all (by decide)
    exact fun hmem => (hsplit c hmem).resolve_right hc
  have hgoesOn : ∀ d, (c = d → endsWord tail.head? = false) →
      (decide (c = d) && endsWord tail.head?) = false := by
    intro d h
    by_cases hd : c = d
    · rw [h hd, Bool.and_false]
    · rw [decide_eq_false hd, Bool.false_and]
  have hplain : (!isIndicator c && !isBlank c || decide (c = '-') || (decide (c = '?') || decide (c = ':'))) =
      true := by
    rw [hblank]
    cases h : isIndicator c
    · rfl
    · obtain rfl | rfl | rfl := hindicator h <;> rfl
  rw [readToken]
  · simp only [hdirective, hmark '-' fun h => (hline h).1, hmark '.' fun h => (hline h).2, hahead, hflow,
      hgoesOn '-' fun h => hword (.inr (.inr h)), hgoesOn '?' fun h => hword (.inl h),
      hgoesOn ':' fun h => hword (.inr (.inl h)), hne '|' (by decide), hne '>' (by decide), hplain,
      decide_false, Bool.and_false, Bool.false_and, Bool.false_or, Bool.not_false, Bool.true_and,
      Bool.false_eq_true, if_false, if_true]
  all_goals exact hne _ (by decide)

/-! ### Keys -/

/-- The note of a key at the place where it starts. -/
def keyNote (here : Cursor) (indent : Int) (tokens : List Token) : PendingKey :=
  ⟨tokens.length, here.index, here.line, here.column, indent == here.column⟩

/-- The state behind a key that is not known to be one yet. -/
def noted (here : Cursor) (indent : Int) (outer : List Int) (tokens : List Token) (name : List Char) :
    Layout :=
  { between (here.past name) indent outer false (.scalar true (String.ofList name) :: tokens) with
    pending := some (keyNote here indent tokens) }

theorem readToken_name (hname : IsName name) (hrest : here.rest = name ++ ':' :: tail)
    (htail : endsWord tail.head? = true) (hpeek : here.peek = some c) :
    (between here indent outer true tokens).readToken c = .ok (noted here indent outer tokens name) := by
  have hc : (c = '_' || c.isLower) = true := by
    rw [Cursor.peek, hrest, List.head?_append_of_ne_nil _ hname.1] at hpeek
    exact hname.2 c (List.mem_of_head? hpeek)
  have hne : ∀ d, (d = '_' || d.isLower) = false → c ≠ d := fun d => ne_of_name hc
  have hforeign : ∀ d ∈ "#,[]\x7b\x7d&*!|>'\"%@\x60".toList, (d = '_' || d.isLower) = false :=
    forall_mem_of_all (by decide)
  have hindicator : c ∉ "#,[]\x7b\x7d&*!|>'\"%@\x60".toList := fun hmem =>
    ne_of_name hc (hforeign c hmem) rfl
  obtain ⟨rest, hcons⟩ : ∃ rest, here.rest = c :: rest := by
    rw [Cursor.peek] at hpeek
    exact List.head?_eq_some_iff.1 hpeek
  rw [readToken_plain (s := between here indent outer true tokens) hcons rfl
    (fun _ => ⟨hne '-' (by decide), hne '.' (by decide)⟩) hindicator
    (endsWord_eq_false_iff.1 (endsWord_of_name hc)).1
    (by rintro (h | h | h) <;> exact absurd h (hne _ (by decide)))]
  have hread : PlainScalar.read false (indent + 1).toNat here =
      .ok (String.ofList name, false, here.past name) :=
    PlainScalar.read_name hname hrest htail
  have hnote : (between here indent outer true tokens).notePending =
      .ok { between here indent outer true tokens with pending := some (keyNote here indent tokens) } := rfl
  rw [readPlainScalar, hnote]
  simp only [between, allowKey, inFlow, List.isEmpty_nil, Bool.not_true, hread, ok_bind]
  rfl

theorem ready_noted (hname : IsName name) (hlength : name.length ≤ 1024)
    (hrest : here.rest = name ++ ':' :: tail) (hindent : indent ≤ here.column) :
    ready (noted here indent outer tokens name) = .ok (noted here indent outer tokens name) := by
  have hcolon : StartsToken (':' :: tail) := startsToken_cons (by decide)
  have hsettle : settle (noted here indent outer tokens name) = noted here indent outer tokens name :=
    settle_self (Cursor.rest_past hrest) hcolon
  have hfresh : freshPending (here.past name) (some (keyNote here indent tokens)) =
      .ok (some (keyNote here indent tokens)) := by
    have hline : (here.past name).line = here.line := Cursor.line_past_inline (isBreak_of_isName hname)
    rw [freshPending]
    simp [keyNote, hline, Nat.not_lt.2 hlength]
  have hdrop : (noted here indent outer tokens name).dropStale =
      .ok (noted here indent outer tokens name) := by
    rw [dropStale]
    simp only [noted, between, hfresh, ok_bind]
    rfl
  have hcolumn : indent ≤ (here.past name).column := by
    rw [Cursor.column_past_inline (isBreak_of_isName hname)]
    omega
  rw [ready, hsettle, hdrop]
  exact congrArg Except.ok (closeBlocks_go_of_le hcolumn outer)

/-- The blocks around a mapping with a key at the given column: a key right of the innermost block
opens one. -/
def blocksAround (column indent : Int) (outer : List Int) : List Int :=
  if indent < column then indent :: outer else outer

/-- The tokens in front of a key at the given column. -/
def tokensBefore (column indent : Int) (tokens : List Token) : List Token :=
  if indent < column then .blockMappingStart :: tokens else tokens

/-- The tokens up to the colon of a key at the given column. -/
def tokensWithKey (column indent : Int) (tokens : List Token) (name : List Char) : List Token :=
  .value :: .scalar true (String.ofList name) :: .key :: tokensBefore column indent tokens

/-- The state behind the colon of a key. -/
def behindColon (here : Cursor) (indent : Int) (outer : List Int) (tokens : List Token) (name : List Char) :
    Layout :=
  between (here.past (name ++ [':'])) here.column (blocksAround here.column indent outer) false
    (tokensWithKey here.column indent tokens name)

theorem readToken_colon (hrest : here.rest = name ++ ':' :: tail)
    (htail : endsWord tail.head? = true) (hindent : indent ≤ here.column) :
    (noted here indent outer tokens name).readToken ':' =
      .ok (behindColon here indent outer tokens name) := by
  have hmid : (noted here indent outer tokens name).here.rest = ':' :: tail := Cursor.rest_past hrest
  have hahead : (noted here indent outer tokens name).here.ahead 1 = tail.head? := by
    rw [Cursor.ahead, hmid, List.getElem?_cons_succ, List.head?_eq_getElem?]
  have hmark : ∀ d, ':' ≠ d → (noted here indent outer tokens name).here.atMark [d, d, d] = false :=
    fun d hd => Cursor.atMark_of_head hmid hd
  have hvalue : (noted here indent outer tokens name).readToken ':' =
      (noted here indent outer tokens name).readValue := by
    rw [readToken]
    · simp [hmark '-' (by decide), hmark '.' (by decide), hahead, htail]
    all_goals decide
  have hmove : (here.past name).skip 1 = here.past (name ++ [':']) := by
    rw [Cursor.past_append]
    rfl
  rw [hvalue, readValue, behindColon]
  obtain hopen | rfl := Int.lt_or_eq_of_le hindent
  · simp [noted, between, openBlock, inFlow, keyNote, hopen, emitAt, allowKey, emit, move, hmove,
      blocksAround, tokensWithKey, tokensBefore]
  · simp [noted, between, openBlock, inFlow, keyNote, emitAt, allowKey, emit, move, hmove, blocksAround,
      tokensWithKey, tokensBefore]

theorem reaches_key (hready : ready s = .ok (between here indent outer true tokens)) (hname : IsName name)
    (hlength : name.length ≤ 1024) (hrest : here.rest = name ++ ':' :: tail)
    (htail : endsWord tail.head? = true) (hindent : indent ≤ here.column) :
    Reaches 2 s (behindColon here indent outer tokens name) := by
  obtain ⟨c, hpeek⟩ : ∃ c, here.peek = some c := by
    obtain ⟨c, rest, rfl⟩ := List.exists_cons_of_ne_nil hname.1
    exact ⟨c, Cursor.peek_eq hrest⟩
  have hcolon : (noted here indent outer tokens name).here.peek = some ':' :=
    Cursor.peek_eq (Cursor.rest_past hrest)
  exact (reaches_token hready hpeek (readToken_name hname hrest htail hpeek)).trans
    (reaches_token (ready_noted hname hlength hrest hindent) hcolon (readToken_colon hrest htail hindent))

end Layout

end BindingRegions.Yaml
