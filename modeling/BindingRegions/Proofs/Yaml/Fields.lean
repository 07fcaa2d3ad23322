import BindingRegions.Proofs.Yaml.Layout
import BindingRegions.Proofs.Yaml.ScalarText

/-! The text of a field read as a token. Whatever style the writer takes, the reader comes to the
next line's first token with the field's text, and a key is allowed there. -/

namespace BindingRegions.Yaml

open ScalarText

namespace Layout

variable {here : Cursor} {enclosing : Nat} {outer : List Int} {tokens : List Token} {k fuel : Nat}
  {chars next : List Char} {text : String}

theorem StartsToken.endsWord (h : StartsToken chars) : ∀ c ∈ chars.head?, endsWord (some c) = false :=
  fun c hc => (h c hc).1

/-- What a text's scalar is read as: it ends at the next token, where a key is allowed. -/
def ReadsAs (here : Cursor) (enclosing : Nat) (outer : List Int) (tokens : List Token) (text : String)
    (after : Cursor) : Prop :=
  ∃ c plain s, here.peek = some c ∧
    (between here enclosing outer false tokens).readToken c = .ok s ∧
      settle s = between after enclosing outer true (.scalar plain text :: tokens)

theorem readsAs_plain (hfits : fitsPlain chars = true) (hne : chars ≠ [])
    (hrest : here.rest = chars ++ '\n' :: (spaces k ++ next)) (hsize : here.rest.length ≤ here.size)
    (hcolumn : enclosing < here.column) (hk : k ≤ enclosing) (hnext : StartsToken next) :
    ReadsAs here enclosing outer tokens (String.ofList chars) (here.past (chars ++ '\n' :: spaces k)) := by
  have hplain := IsPlain.of_fitsPlain hfits hne
  have hread : PlainScalar.read false (enclosing + 1) here =
      .ok (String.ofList chars, true, here.past (chars ++ '\n' :: spaces k)) :=
    PlainScalar.read_text hplain hrest hsize hcolumn (Nat.lt_succ_of_le hk) hnext.endsWord
  obtain ⟨c, chars, rfl⟩ := List.exists_cons_of_ne_nil hne
  obtain ⟨hfirst, hgoesOn⟩ := IsPlain.first_of_fitsPlain hfits
  have hblank : isBlank c = false :=
    (endsWord_eq_false_iff.1 (hplain.endsWord_eq_false List.mem_cons_self (hplain.start c rfl).1)).1
  have htoken : (between here enclosing outer false tokens).readToken c =
      (between here enclosing outer false tokens).readPlainScalar := by
    refine readToken_plain (s := between here enclosing outer false tokens) hrest rfl
      (fun h : here.column = 0 => absurd h (by omega)) hfirst hblank fun hc => ?_
    cases chars with
    | nil => exact hgoesOn hc
    | cons d chars => exact hgoesOn hc
  have hbehind : (here.past (c :: chars ++ '\n' :: spaces k)).rest = next :=
    Cursor.rest_past (by simp [hrest])
  refine ⟨c, true, between (here.past (c :: chars ++ '\n' :: spaces k)) enclosing outer true
    (.scalar true (String.ofList (c :: chars)) :: tokens), Cursor.peek_eq hrest, ?_,
    settle_self hbehind hnext⟩
  have hindent : ((enclosing : Int) + 1).toNat = enclosing + 1 := by omega
  rw [htoken, readPlainScalar]
  simp [between, inFlow, notePending, allowKey, hindent, hread, emit]

theorem readsAs_quoted {single : Bool} {quoted : List Char}
    (hread : QuotedScalar.read single here = .ok (text, here.past quoted))
    (hpeek : here.peek = some (QuotedScalar.quote single))
    (hrest : here.rest = quoted ++ '\n' :: (spaces k ++ next)) (hsize : here.rest.length ≤ here.size)
    (hcolumn : enclosing < here.column) (hnext : StartsToken next) :
    ReadsAs here enclosing outer tokens text (here.past (quoted ++ '\n' :: spaces k)) := by
  have hinline : here.column ≠ 0 := by omega
  have hmark : ∀ mark, here.atMark mark = false := fun mark => by simp [Cursor.atMark, hinline]
  refine ⟨_, false, between (here.past quoted) enclosing outer false (.scalar false text :: tokens), hpeek,
    ?_, ?_⟩
  · cases single
    · show (between here enclosing outer false tokens).readToken '"' = _
      rw [readToken]
      simp [between, hinline, hmark, readQuotedScalar, notePending, allowKey, hread, emit]
    · show (between here enclosing outer false tokens).readToken '\'' = _
      rw [readToken]
      simp [between, hinline, hmark, readQuotedScalar, notePending, allowKey, hread, emit]
  · rw [Cursor.past_append]
    exact settle_line (Cursor.rest_past hrest) hnext (Cursor.fits_past hsize)

theorem readsAs_literal (hprintable : ∀ c ∈ chars, isPrintable c = true) (hne : chars ≠ [])
    (hrest : here.rest = literal (enclosing + 2) chars ++ (ending chars ++ (spaces k ++ next)))
    (hsize : here.rest.length ≤ here.size) (hcolumn : enclosing < here.column) (hk : k ≤ enclosing)
    (hnext : StartsToken next) :
    ReadsAs here enclosing outer tokens (String.ofList chars)
      (here.past (literal (enclosing + 2) chars ++ (ending chars ++ spaces k))) := by
  have hread := read_literal hprintable hne (by omega) hrest hnext.endsWord hsize
  have hinline : here.column ≠ 0 := by omega
  have hmark : ∀ mark, here.atMark mark = false := fun mark => by simp [Cursor.atMark, hinline]
  have hpeek : here.peek = some '|' := by
    rw [Cursor.peek, hrest]
    rfl
  have hbehind : (here.past (literal (enclosing + 2) chars ++ (ending chars ++ spaces k))).rest = next :=
    Cursor.rest_past (by simp [hrest])
  refine ⟨'|', false, between (here.past (literal (enclosing + 2) chars ++ (ending chars ++ spaces k)))
    enclosing outer true (.scalar false (String.ofList chars) :: tokens), hpeek, ?_,
    settle_self hbehind hnext⟩
  rw [readToken]
  · simp [between, hinline, hmark, inFlow, readBlockScalar, dropPending, allowKey, hread, emit]
  all_goals decide

/-- A field's text as it is written, to its line's end. -/
def written (indent : Nat) (text : String) : List Char :=
  write (indent + 2) text ++ ending (write (indent + 2) text)

theorem writeField_eq (indent : Nat) (name text : String) :
    writeField indent name text = spaces indent ++ (name.toList ++ ':' :: ' ' :: written indent text) := by
  simp [writeField, written, ending, spaces]

theorem readsAs_write (hrest : here.rest = written enclosing text ++ (spaces k ++ next))
    (hsize : here.rest.length ≤ here.size) (hcolumn : enclosing < here.column) (hk : k ≤ enclosing)
    (hnext : StartsToken next) :
    ReadsAs here enclosing outer tokens text (here.past (written enclosing text ++ spaces k)) := by
  have htext : String.ofList text.toList = text := String.ofList_toList
  have hquote : ('\n' :: (spaces k ++ next)).head? ≠ some '\'' := by simp
  have hstyled := styled_write (enclosing + 2) text
  rw [written] at hrest ⊢
  generalize write (enclosing + 2) text = scalar at hstyled hrest ⊢
  rw [List.append_assoc] at hrest ⊢
  cases hstyled with
  | literal hfits =>
    simp only [fitsLiteral, Bool.and_eq_true, Bool.not_eq_true', List.isEmpty_eq_false_iff] at hfits
    rw [ending_literal _ hfits.1.2] at hrest ⊢
    have hread : ReadsAs here enclosing outer tokens (String.ofList text.toList) _ :=
      readsAs_literal (all_isPrintable_of_isRegular hfits.1.1) hfits.1.2 hrest hsize hcolumn hk hnext
    rwa [htext] at hread
  | plain hfits hne =>
    have hending : ending text.toList = ['\n'] := by
      obtain ⟨front, c, hc⟩ := (List.eq_nil_or_concat text.toList).resolve_left hne
      have hbreak := ((IsPlain.of_fitsPlain hfits hne).inline c (by rw [hc]; simp)).2
      rw [hc, List.concat_eq_append, ending_concat hbreak]
    rw [hending] at hrest ⊢
    have hread : ReadsAs here enclosing outer tokens (String.ofList text.toList) _ :=
      readsAs_plain hfits hne hrest hsize hcolumn hk hnext
    rwa [htext] at hread
  | single hfits hnewline =>
    have hending : ending (singleQuoted (enclosing + 2) text.toList) = ['\n'] :=
      ending_concat (by decide) _
    rw [hending] at hrest ⊢
    have hread := QuotedScalar.read_singleQuoted hfits hnewline (Nat.succ_pos _) hrest hquote hsize
    rw [htext] at hread
    exact readsAs_quoted hread (by rw [Cursor.peek, hrest]; rfl) hrest hsize hcolumn hnext
  | double =>
    have hending : ending (doubleQuoted text.toList) = ['\n'] := ending_concat (by decide) _
    rw [hending] at hrest ⊢
    have hread := QuotedScalar.read_doubleQuoted hrest hquote hsize
    rw [htext] at hread
    exact readsAs_quoted hread (by rw [Cursor.peek, hrest]; rfl) hrest hsize hcolumn hnext

/-! ### Fields -/

theorem startsToken_name {tail name : List Char} (hname : IsName name) : StartsToken (name ++ tail) := by
  obtain ⟨c, name, rfl⟩ := List.exists_cons_of_ne_nil hname.1
  have hc := hname.2 c List.mem_cons_self
  exact startsToken_cons ⟨endsWord_of_name hc, ne_of_name hc (by decide), ne_of_name hc (by decide)⟩

theorem startsToken_written (indent : Nat) (text : String) (tail : List Char) :
    StartsToken (written indent text ++ tail) := by
  have hstyled := styled_write (indent + 2) text
  rw [written]
  generalize write (indent + 2) text = scalar at hstyled
  cases hstyled with
  | literal => exact startsToken_cons (by decide)
  | plain hfits hne =>
    have hplain := IsPlain.of_fitsPlain hfits hne
    obtain ⟨c, chars, hchars⟩ := List.exists_cons_of_ne_nil hne
    intro d hd
    obtain rfl : c = d := by simpa [hchars] using hd
    have hmem : c ∈ text.toList := hchars ▸ List.mem_cons_self
    obtain ⟨hspace, hcomment⟩ := hplain.start c (by rw [hchars]; rfl)
    refine ⟨hplain.endsWord_eq_false hmem hspace, hcomment, ?_⟩
    rintro rfl
    simp only [fitsPlain, Bool.and_eq_true] at hfits
    exact absurd (all_isPrintable_of_isRegular hfits.1.1.1.1 _ hmem) (by decide)
  | single => exact startsToken_cons (by decide)
  | double => exact startsToken_cons (by decide)

/-- A field with a text, and the indentation of the next line. -/
def textField (name : List Char) (column : Nat) (text : String) (k : Nat) : List Char :=
  name ++ ':' :: ' ' :: (written column text ++ spaces k)

/-- The name of a field whose value is a mapping, and the indentation of the next line. -/
def mappingField (name : List Char) (k : Nat) : List Char := name ++ ':' :: '\n' :: spaces k

theorem startsToken_textField {name : List Char} (hname : IsName name) (column : Nat) (text : String) :
    StartsToken (textField name column text k ++ next) := by
  rw [textField, List.append_assoc]
  exact startsToken_name hname

theorem startsToken_mappingField {name : List Char} (hname : IsName name) :
    StartsToken (mappingField name k ++ next) := by
  rw [mappingField, List.append_assoc]
  exact startsToken_name hname

theorem isPrintable_of_mem_written {c : Char} (h : c ∈ written k text) : isPrintable c = true := by
  rw [written, ending, List.mem_append] at h
  obtain h | h := h
  · exact (styled_write (k + 2) text).all_isPrintable c h
  · split at h
    · simp at h
    · rw [List.mem_singleton.1 h]
      decide

theorem isPrintable_of_mem_textField {name : List Char} (hname : IsName name) {column : Nat} {c : Char}
    (h : c ∈ textField name column text k) : isPrintable c = true := by
  simp only [textField, List.mem_append, List.mem_cons] at h
  obtain h | rfl | rfl | h | h := h
  · exact isPrintable_of_name (hname.2 c h)
  · decide
  · decide
  · exact isPrintable_of_mem_written h
  · rw [eq_space_of_mem_spaces h]
    decide

theorem isPrintable_of_mem_mappingField {name : List Char} (hname : IsName name) {c : Char}
    (h : c ∈ mappingField name k) : isPrintable c = true := by
  simp only [mappingField, List.mem_append, List.mem_cons] at h
  obtain h | rfl | rfl | h := h
  · exact isPrintable_of_name (hname.2 c h)
  · decide
  · decide
  · rw [eq_space_of_mem_spaces h]
    decide

theorem column_past_mappingField (here : Cursor) (name : List Char) (k : Nat) :
    (here.past (mappingField name k)).column = k := by
  have hcut : mappingField name k = (name ++ [':']) ++ '\n' :: spaces k := by simp [mappingField]
  rw [hcut, Cursor.column_past_line (by decide) isBreak_spaces, length_spaces]

/-- What follows a field starts on a line of its own. -/
theorem column_past_textField (here : Cursor) (name : List Char) (column : Nat) (text : String) (k : Nat) :
    (here.past (textField name column text k)).column = k := by
  obtain ⟨front, c, hwritten, hc⟩ : ∃ front c, written column text = front ++ [c] ∧ isBreak c = true := by
    rw [written, ending]
    cases hlast : (write (column + 2) text).getLast? with
    | none => exact ⟨_, '\n', rfl, by decide⟩
    | some c =>
      cases hc : isBreak c with
      | false => exact ⟨write (column + 2) text, '\n', by simp [hc], by decide⟩
      | true =>
        obtain ⟨front, hfront⟩ := List.getLast?_eq_some_iff.1 hlast
        exact ⟨front, c, by simp [hc, hfront], hc⟩
  have hcut : textField name column text k = (name ++ ':' :: ' ' :: front) ++ c :: spaces k := by
    simp [textField, hwritten]
  rw [hcut, Cursor.column_past_line hc isBreak_spaces, length_spaces]

/-- A state that the next token brings to the start of a line's text. -/
structure AtLine (s : Layout) (here : Cursor) (column : Nat) (indent : Int) (outer : List Int)
    (tokens : List Token) : Prop where
  settle_eq : settle s = between here indent outer true tokens
  column_eq : here.column = column
  fits : here.rest.length ≤ here.size

/-- A state in which a key at the given column may be read next. -/
structure AtKey (s : Layout) (here : Cursor) (column : Nat) (indent : Int) (outer : List Int)
    (tokens : List Token) : Prop where
  ready_eq : ready s = .ok (between here indent outer true tokens)
  column_eq : here.column = column
  indent_le : indent ≤ column
  fits : here.rest.length ≤ here.size

variable {s : Layout} {indent : Int} {column : Nat} {name : List Char}

theorem AtLine.atKey (h : AtLine s here column indent outer tokens) (hindent : indent ≤ column) :
    AtKey s here column indent outer tokens :=
  ⟨ready_of_settle h.settle_eq (by rwa [h.column_eq]), h.column_eq, hindent, h.fits⟩

/-- Back at the column of the block around, the inner one ends. -/
theorem AtLine.atKey_back (h : AtLine s here column indent (column :: outer) tokens)
    (hindent : column < indent) : AtKey s here column column outer (.blockEnd :: tokens) :=
  ⟨ready_of_settle_back h.settle_eq (by rwa [h.column_eq]) (by rw [h.column_eq]), h.column_eq,
    Int.le_refl _, h.fits⟩

/-- A field with a text takes three steps, one for each of its tokens. -/
theorem AtKey.reaches_text (h : AtKey s here column indent outer tokens) (hname : IsName name)
    (hlength : name.length ≤ 1024) (hrest : here.rest = textField name column text k ++ next)
    (hk : k ≤ column) (hnext : StartsToken next) :
    ∃ plain s', Reaches 3 s s' ∧
      AtLine s' (here.past (textField name column text k)) k column (blocksAround column indent outer)
        (.scalar plain text :: tokensWithKey column indent tokens name) := by
  obtain ⟨hready, rfl, hindent, hsize⟩ := h
  have hinline : ∀ c ∈ name ++ [':', ' '], isBreak c = false :=
    List.forall_mem_append.2 ⟨isBreak_of_isName hname, forall_mem_of_all (by decide)⟩
  have hplace := column_past_textField here name here.column text k
  simp only [textField, List.append_assoc, List.cons_append] at hrest hplace ⊢
  -- The place where the text starts.
  set start := here.past (name ++ [':', ' '])
  have hstart : start.rest = written here.column text ++ (spaces k ++ next) :=
    Cursor.rest_past (by rw [hrest]; simp)
  have hstartColumn : here.column < start.column := by
    rw [Cursor.column_past_inline hinline]
    simp
  have hcolon : here.rest =
      (name ++ [':']) ++ (spaces 1 ++ (written here.column text ++ (spaces k ++ next))) := by
    rw [hrest]
    simp [spaces]
  have hsettle : settle (behindColon here indent outer tokens name) =
      between start here.column (blocksAround here.column indent outer) false
        (tokensWithKey here.column indent tokens name) := by
    rw [settle_spaces (s := behindColon here indent outer tokens name) (Cursor.rest_past hcolon)
      (startsToken_written _ _ _)]
    simp only [behindColon, between, ← Cursor.past_append, List.append_assoc]
    rfl
  obtain ⟨c, plain, s', hpeek, htoken, hafter⟩ :
      ReadsAs start here.column (blocksAround here.column indent outer)
        (tokensWithKey here.column indent tokens name) text _ :=
    readsAs_write hstart (Cursor.fits_past hsize) hstartColumn hk hnext
  have hscalar := reaches_token (ready_of_settle hsettle (by omega)) hpeek htoken
  refine ⟨plain, s', (reaches_key hready hname hlength hrest rfl hindent).trans hscalar, ?_, hplace,
    Cursor.fits_past hsize⟩
  rw [hafter, ← Cursor.past_append]
  simp

/-- The name of a field whose value is a mapping takes two steps. -/
theorem AtKey.reaches_mapping (h : AtKey s here column indent outer tokens) (hname : IsName name)
    (hlength : name.length ≤ 1024) (hrest : here.rest = mappingField name k ++ next)
    (hnext : StartsToken next) :
    ∃ s', Reaches 2 s s' ∧
      AtLine s' (here.past (mappingField name k)) k column (blocksAround column indent outer)
        (tokensWithKey column indent tokens name) := by
  obtain ⟨hready, rfl, hindent, hsize⟩ := h
  have hplace := column_past_mappingField here name k
  have hcolon : here.rest = (name ++ [':']) ++ '\n' :: (spaces k ++ next) := by
    rw [hrest]
    simp [mappingField]
  simp only [mappingField, List.append_assoc, List.cons_append] at hrest hplace ⊢
  refine ⟨behindColon here indent outer tokens name,
    reaches_key hready hname hlength hrest rfl hindent, ?_, hplace, Cursor.fits_past hsize⟩
  rw [behindColon, settle_line (Cursor.rest_past hcolon) hnext (Cursor.fits_past hsize), ← Cursor.past_append]
  simp

/-- Where the text ends, so does its outermost block. -/
theorem AtLine.readAll_end (h : AtLine s here 0 0 [-1] tokens) (hrest : here.rest = []) :
    (readAll (fuel + 1) s).map (·.tokens) = .ok (.blockEnd :: tokens) := by
  have hpeek : here.peek = none := by rw [Cursor.peek, hrest]; rfl
  have hend : readAll (fuel + 1) s = (between here 0 [-1] true tokens).endBlocks := by
    rw [readAll_eq (h.atKey (Int.le_refl 0)).ready_eq]
    simp only [between, hpeek]
  rw [hend]
  rfl

end Layout

/-- A text without strange characters has the tokens that are read from it. -/
theorem Token.ofText_eq {text : String} {tokens : List Token}
    (hallowed : ∀ c ∈ text.toList, isAllowed c = true)
    (hread : (Layout.readAll (text.length + 1) { here := .ofText text }).map (·.tokens) = .ok tokens.reverse) :
    Token.ofText text = .ok tokens := by
  have hnone : (text.toList.find? fun c => !isAllowed c) = none := by
    simp only [List.find?_eq_none, Bool.not_eq_true, Bool.not_eq_false']
    exact hallowed
  rw [Token.ofText, hnone]
  cases hstate : Layout.readAll (text.length + 1) { here := .ofText text } with
  | error fault => simp [hstate, Except.map] at hread
  | ok s =>
    have htokens : s.tokens = tokens.reverse := by simpa [hstate, Except.map] using hread
    simp [htokens]

end BindingRegions.Yaml
