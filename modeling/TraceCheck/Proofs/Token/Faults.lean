import TraceCheck.Proofs.Token.Tiling

/-!
# Errors in the tiles of a text

A text that is short enough has one error for each tile that is at fault: a word or a
string that is too long, a string that is open at the end, and a character that lies in no
other tile.  The errors are placed at the starts of their tiles and ascend.
-/

namespace TraceCheck

open TraceCheck.Text

/-! ## Tiles at fault -/

namespace Tile

/-- The errors that a tile can have.  The word that is quoted with a stray character is
left open. -/
inductive HasError (l : Limits) (x : Tile) : LexicalError → Prop where
  | identifierTooLong (hx : x.lexeme = .word) (hlong : l.maxIdentifierLength < x.chars.length) :
    x.HasError l (.identifierTooLong l.maxIdentifierLength)
  | stringTooLong {content : List Char} (hx : x.lexeme = .string content)
    (hlong : l.maxStringLength < content.length) :
    x.HasError l (.stringTooLong l.maxStringLength)
  | unterminatedString (hx : x.lexeme = .openString) : x.HasError l .unterminatedString
  | unexpectedCharacter {c : Char} (hx : x.lexeme = .stray c) (word : String) :
    x.HasError l (.unexpectedCharacter
      (Redaction.displaySafe (String.singleton c) Located.quotedChars) word (c = '='))

/-- Whether a tile is at fault. -/
def isFaulty (l : Limits) (x : Tile) : Bool :=
  match x.lexeme with
  | .word => l.maxIdentifierLength < x.chars.length
  | .string content => l.maxStringLength < content.length
  | .openString | .stray _ => true
  | _ => false

/-- A diagnostic reports an error of a tile, at the start of the tile and over as many
columns as the tile has bytes. -/
structure IsReported (l : Limits) (d : Diagnostic) (x : Tile) : Prop where
  error : ∃ e, x.HasError l e ∧ d.message = e.message ∧ d.suggestion = some e.suggestion
  level : d.level = .error
  line : d.line = lineBehind x.before
  column : d.column = columnBehind x.before
  endLine : d.endLine = d.line
  endColumn : d.endColumn = d.column + byteSize x.chars

end Tile

/-- A diagnostic is placed in front of another one. -/
def Diagnostic.IsBefore (d d' : Diagnostic) : Prop :=
  d.line < d'.line ∨ d.line = d'.line ∧ d.column < d'.column

/-- The errors of a text report its tiles that are at fault, each once and in their order.
The tiles are the only ones into which the text can be cut, and a character is stray
exactly when no other tile holds it. -/
structure ReportFaults (l : Limits) (source : String) (errors : List Diagnostic)
    (tiles : List Tile) : Prop where
  tiling : Tiling [] source.toList tiles
  unique : ∀ tiles', Tiling [] source.toList tiles' → tiles' = tiles
  faulty : ∀ x ∈ tiles, x.isFaulty l = true ↔ ∃ e, x.HasError l e
  stray : ∀ before c behind, source.toList = before ++ c :: behind →
    ((∃ x ∈ tiles, x.lexeme = .stray c ∧ x.before = before) ↔
      ∀ x ∈ tiles, x.Holds (byteSize before) → ∃ c', x.lexeme = .stray c')
  reported : List.Forall₂ (Tile.IsReported l) errors (tiles.filter (·.isFaulty l))
  ascending : errors.Pairwise Diagnostic.IsBefore

variable {l : Limits} {before cs : List Char} {tiles : List Tile} {x y : Tile}

/-! ## Faults -/

theorem Tile.isFaulty_iff : x.isFaulty l = true ↔ ∃ e, x.HasError l e := by
  constructor
  · unfold isFaulty
    intro h
    split at h
    next hx => exact ⟨_, .identifierTooLong hx (of_decide_eq_true h)⟩
    next content hx => exact ⟨_, .stringTooLong hx (of_decide_eq_true h)⟩
    next hx => exact ⟨_, .unterminatedString hx⟩
    next c hx => exact ⟨_, .unexpectedCharacter hx ""⟩
    next => cases h
  · rintro ⟨e, he⟩
    unfold isFaulty
    cases he with
    | identifierTooLong hx hlong => rw [hx]; exact decide_eq_true hlong
    | stringTooLong hx hlong => rw [hx]; exact decide_eq_true hlong
    | unterminatedString hx => rw [hx]
    | unexpectedCharacter hx word => rw [hx]

/-- The diagnostic of a lexeme reports the error of its tile. -/
theorem Located.isReported_diagnose
    {z : Located} {e : LexicalError} (hz : z.IsAt x) (hx : x.chars ≠ []) (he : x.HasError l e) :
    x.IsReported l (z.diagnose e) := by
  have hfatal : e.isFatal = false := by cases he <;> rfl
  have hdiagnose : z.diagnose e = .spanning .error z.start.line z.start.column
      (byteSize z.chars) e.message (some e.suggestion) := by
    rw [diagnose, LexicalError.diagnostic, hfatal, if_neg nofun]
  have hbytes : max (byteSize z.chars) 1 = byteSize x.chars := by
    rw [hz.chars]
    exact Nat.max_eq_left (byteSize_pos hx)
  rw [hdiagnose]
  exact ⟨⟨e, he, rfl, rfl⟩, rfl, hz.start.line, hz.start.column, rfl, congrArg _ hbytes⟩

/-- A lexeme adds the error of its tile, if the tile is at fault. -/
theorem lexicalErrors_cons
    {z : Located} (hz : z.IsAt x) (zs : List Located) (last : Option (Nat × String))
    (found : List Diagnostic) :
    (∃ e last', x.HasError l e ∧ lexicalErrors l (z :: zs) last found =
        lexicalErrors l zs last' (z.diagnose e :: found)) ∨
      x.isFaulty l = false ∧
        lexicalErrors l (z :: zs) last found = lexicalErrors l zs last found := by
  obtain ⟨lexeme, before, chars, behind⟩ := x
  obtain ⟨lexeme', start, chars'⟩ := z
  obtain ⟨rfl, rfl, -⟩ := hz
  cases lexeme' with
  | word =>
      by_cases hlong : l.maxIdentifierLength < chars'.length
      · exact .inl ⟨_, last, .identifierTooLong rfl hlong, if_pos hlong⟩
      · exact .inr ⟨decide_eq_false hlong, if_neg hlong⟩
  | string content =>
      by_cases hlong : l.maxStringLength < content.length
      · exact .inl ⟨_, last, .stringTooLong rfl hlong, if_pos hlong⟩
      · exact .inr ⟨decide_eq_false hlong, if_neg hlong⟩
  | openString => exact .inl ⟨_, last, .unterminatedString rfl, rfl⟩
  | stray c => exact .inl ⟨_, _, .unexpectedCharacter rfl _, rfl⟩
  | _ => exact .inr ⟨rfl, rfl⟩

theorem lexicalErrors_of_isAt
    {zs : List Located} (hzs : List.Forall₂ Located.IsAt zs tiles)
    (hchars : ∀ x ∈ tiles, x.chars ≠ []) (last : Option (Nat × String))
    (found : List Diagnostic) :
    ∃ ds, lexicalErrors l zs last found = found.reverse ++ ds ∧
      List.Forall₂ (Tile.IsReported l) ds (tiles.filter (·.isFaulty l)) := by
  induction hzs generalizing last found with
  | nil => exact ⟨[], (List.append_nil _).symm, .nil⟩
  | @cons z x zs tiles hz _ ih =>
      obtain ⟨hx, hall⟩ := List.forall_mem_cons.mp hchars
      rcases lexicalErrors_cons hz zs last found with ⟨e, last', he, hscan⟩ | ⟨hclean, hscan⟩
      · obtain ⟨ds, hds, hreported⟩ := ih hall last' (z.diagnose e :: found)
        refine ⟨z.diagnose e :: ds, ?_, ?_⟩
        · rw [hscan, hds, List.reverse_cons, List.append_assoc, List.singleton_append]
        · rw [List.filter_cons_of_pos (Tile.isFaulty_iff.mpr ⟨e, he⟩)]
          exact .cons (z.isReported_diagnose hz hx he) hreported
      · obtain ⟨ds, hds, hreported⟩ := ih hall last found
        refine ⟨ds, hscan.trans hds, ?_⟩
        rw [List.filter_cons_of_neg (by rw [hclean]; nofun)]
        exact hreported

/-! ## Places -/

/-- Behind more characters a text is further on. -/
theorem place_lt_of_prefix {u v w : List Char} (hw : w ≠ []) (h : u ++ w <+: v) :
    lineBehind u < lineBehind v ∨
      lineBehind u = lineBehind v ∧ columnBehind u < columnBehind v := by
  obtain ⟨t, rfl⟩ := h
  rw [List.append_assoc]
  have hne : w ++ t ≠ [] := fun heq => hw (List.append_eq_nil_iff.mp heq).1
  generalize w ++ t = more at hne
  unfold lineBehind columnBehind
  rw [List.count_append]
  by_cases hfeed : '\n' ∈ more
  · left
    have hcount := List.count_pos_iff.mpr hfeed
    omega
  · right
    have hall : ∀ c ∈ more.reverse, (c != '\n') = true := fun c hc =>
      bne_iff_ne.mpr fun heq => hfeed (heq ▸ List.mem_reverse.mp hc)
    have hlength : 0 < more.length := List.length_pos_iff.mpr hne
    rw [List.count_eq_zero_of_not_mem hfeed, List.reverse_append,
      List.takeWhile_append_of_pos hall, List.length_append, List.length_reverse]
    omega

/-- A diagnostic is placed in front of those that report later tiles. -/
theorem Diagnostic.isBefore_of_reported
    {d : Diagnostic} {ds : List Diagnostic} (hd : x.IsReported l d) (hx : x.chars ≠ [])
    (hds : List.Forall₂ (Tile.IsReported l) ds tiles)
    (hlater : ∀ y ∈ tiles, x.before ++ x.chars <+: y.before) : ∀ d' ∈ ds, d.IsBefore d' := by
  induction hds with
  | nil => exact List.forall_mem_nil _
  | @cons d' y ds tiles hd' _ ih =>
      obtain ⟨hy, hall⟩ := List.forall_mem_cons.mp hlater
      refine List.forall_mem_cons.mpr ⟨?_, ih hall⟩
      rw [IsBefore, hd.line, hd.column, hd'.line, hd'.column]
      exact place_lt_of_prefix hx hy

/-- Diagnostics that report tiles in their order ascend. -/
theorem ascending_of_reported
    {ds : List Diagnostic} (hds : List.Forall₂ (Tile.IsReported l) ds tiles)
    (htiles : tiles.Pairwise fun x y => x.before ++ x.chars <+: y.before)
    (hchars : ∀ x ∈ tiles, x.chars ≠ []) : ds.Pairwise Diagnostic.IsBefore := by
  induction hds with
  | nil => exact .nil
  | @cons d x ds tiles hd hds ih =>
      obtain ⟨hx, hall⟩ := List.forall_mem_cons.mp hchars
      obtain ⟨hlater, htail⟩ := List.pairwise_cons.mp htiles
      exact .cons (d.isBefore_of_reported hd hx hds hlater) (ih htail hall)

/-! ## Stray characters -/

theorem Tile.not_holds_of_prefix {byte : Nat} (h : x.before ++ x.chars <+: y.before)
    (hx : x.Holds byte) : ¬ y.Holds byte := by
  have hle : x.stop ≤ y.first := byteSize_le_of_prefix h
  intro hy
  have hbelow := hx.2
  have habove := hy.1
  omega

/-- A byte belongs to one tile only. -/
theorem Tiling.eq_of_holds (h : Tiling before cs tiles) {byte : Nat} (hx : x ∈ tiles)
    (hy : y ∈ tiles) (hxbyte : x.Holds byte) (hybyte : y.Holds byte) : x = y := by
  by_contra hne
  have hapart : tiles.Pairwise fun x y => ¬ (x.Holds byte ∧ y.Holds byte) := by
    refine h.ascending.imp ?_
    rintro x y hprefix ⟨hx, hy⟩
    exact Tile.not_holds_of_prefix hprefix hx hy
  have hsymm : Std.Symm fun x y : Tile => ¬ (x.Holds byte ∧ y.Holds byte) :=
    ⟨fun _ _ hnot hboth => hnot hboth.symm⟩
  exact hapart.forall hx hy hne ⟨hxbyte, hybyte⟩

/-- A character is stray exactly when no other tile holds it. -/
theorem Tiling.stray_iff (h : Tiling [] cs tiles) {before behind : List Char} {c : Char}
    (hcs : cs = before ++ c :: behind) :
    (∃ x ∈ tiles, x.lexeme = .stray c ∧ x.before = before) ↔
      ∀ x ∈ tiles, x.Holds (byteSize before) → ∃ c', x.lexeme = .stray c' := by
  constructor
  · rintro ⟨x, hx, hstray, rfl⟩ y hy hholds
    have hchars : x.chars ≠ [] := (h.part x hx).2.1.ne_nil
    have hself : x.Holds (byteSize x.before) := ⟨Nat.le_refl _, x.first_lt_stop hchars⟩
    obtain rfl := h.eq_of_holds hx hy hself hholds
    exact ⟨c, hstray⟩
  · intro hall
    obtain ⟨x, hx, w, w', hchars, hbefore⟩ := h.exists_part hcs
    rw [List.nil_append] at hbefore
    obtain ⟨c', hstray⟩ := hall x hx (x.holds_of_part hchars hbefore)
    have hspans := (h.part x hx).2.1
    rw [hstray] at hspans
    obtain ⟨hsingle, -⟩ := hspans
    rw [hchars, List.append_eq_singleton_iff] at hsingle
    rcases hsingle with ⟨rfl, hc⟩ | ⟨-, hc⟩
    · injection hc with hc
      rw [List.append_nil] at hbefore
      exact ⟨x, hx, hc ▸ hstray, hbefore.symm⟩
    · cases hc

/-! ## Errors of a text -/

/-- Every text that is short enough has the errors of its tiles. -/
theorem exists_reportFaults {source : String} (hbudget : l.expired = false)
    (hsize : source.utf8ByteSize ≤ l.maxTotalLength) :
    ∃ tiles, ReportFaults l source (tokenize l source).errors tiles := by
  obtain ⟨tiles, htiling⟩ := exists_tiling [] source.toList
  have hchars : ∀ x ∈ tiles, x.chars ≠ [] := fun x hx => (htiling.part x hx).2.1.ne_nil
  obtain ⟨ds, hds, hreported⟩ :=
    lexicalErrors_of_isAt (l := l) (lexemes_of_tiling htiling).1 hchars none []
  have herrors : (tokenize l source).errors = ds := by
    rw [tokenize_still, if_neg (Nat.not_lt.mpr hsize), hbudget,
      if_neg fun h => Bool.false_ne_true h.1]
    exact hds
  rw [herrors]
  refine ⟨tiles, htiling, fun tiles' h' => htiling.unique h', fun x _ => Tile.isFaulty_iff,
    fun before c behind hsource => htiling.stray_iff hsource, hreported, ?_⟩
  refine ascending_of_reported hreported (htiling.ascending.sublist List.filter_sublist) ?_
  exact fun x hx => hchars x (List.mem_filter.mp hx).1

/-- A long word, a stray character inside a word, and a string that is cut off behind a
backslash. -/
theorem exists_reportFaults_cutOff :
    ({ maxIdentifierLength := 3 } : Limits).expired = false ∧
      "abcd é=\n\"x\\".utf8ByteSize ≤ ({ maxIdentifierLength := 3 } : Limits).maxTotalLength ∧
      ∃ tiles, ReportFaults { maxIdentifierLength := 3 } "abcd é=\n\"x\\"
        (tokenize { maxIdentifierLength := 3 } "abcd é=\n\"x\\").errors tiles := by
  have hbudget : ({ maxIdentifierLength := 3 } : Limits).expired = false := by decide
  have hsize : "abcd é=\n\"x\\".utf8ByteSize ≤
      ({ maxIdentifierLength := 3 } : Limits).maxTotalLength := by
    decide
  exact ⟨hbudget, hsize, exists_reportFaults hbudget hsize⟩

end TraceCheck
