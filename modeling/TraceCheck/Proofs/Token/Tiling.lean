import TraceCheck.Proofs.Token.Tiles

/-!
# Tokens in their text

A rule text is cut into tiles without gaps, in exactly one way.  The tokens stand for the
tiles that are words, numbers, closed strings, operators and marks: each has the bytes,
the line and the column of its tile and a text that the characters of the tile spell.
What lies between the tokens is blank, a comment, a stray character or an open string.
-/

namespace TraceCheck

open TraceCheck.Text

/-! ## Places -/

/-- The line on which a text ends. -/
def lineBehind (before : List Char) : Nat :=
  1 + before.count '\n'

/-- The column behind the last character of a text. -/
def columnBehind (before : List Char) : Nat :=
  1 + (before.reverse.takeWhile (· != '\n')).length

/-- A tile of a text, with what stands in front of it and behind it. -/
structure Tile where
  lexeme : Lexeme
  before : List Char
  chars : List Char
  behind : List Char

namespace Tile

/-- The number of bytes in front of a tile. -/
def first (x : Tile) : Nat := byteSize x.before

/-- The number of bytes up to the end of a tile. -/
def stop (x : Tile) : Nat := byteSize (x.before ++ x.chars)

/-- A byte of the text belongs to a tile. -/
def Holds (x : Tile) (byte : Nat) : Prop :=
  x.first ≤ byte ∧ byte < x.stop

/-- The tiles that tokens stand for. -/
def isToken (x : Tile) : Bool :=
  match x.lexeme with
  | .word | .number | .string _ | .symbol _ => true
  | _ => false

/-- What a character belongs to when no token stands for its tile. -/
def PassesOver (x : Tile) (c : Char) : Prop :=
  match x.lexeme with
  | .blank => isBlank c = true
  | .comment | .openString => True
  | .stray c' => c' = c
  | _ => False

end Tile

/-- A text is cut into tiles, behind some other text. -/
inductive Tiling : (before cs : List Char) → List Tile → Prop where
  | nil (before : List Char) : Tiling before [] []
  | cons {x : Lexeme} {before chars behind : List Char} {tiles : List Tile}
    (hspans : x.Spans chars behind) (hrest : Tiling (before ++ chars) behind tiles) :
    Tiling before (chars ++ behind) (⟨x, before, chars, behind⟩ :: tiles)

/-- The kind and the text of the token for a tile, which is cut when the tile is a word or
a string that is too long. -/
inductive Spelled (l : Limits) : Lexeme → List Char → TokenKind → List Char → Prop where
  | keyword (kind : TokenKind) (hkind : kind ∈ TokenKind.keywords)
    (hshort : kind.literal.toList.length ≤ l.maxIdentifierLength) :
    Spelled l .word kind.literal.toList kind kind.literal.toList
  | identifier (cs : List Char)
    (hcs : l.maxIdentifierLength < cs.length ∨
      ∀ kind ∈ TokenKind.keywords, kind.literal.toList ≠ cs) :
    Spelled l .word cs .identifier (cs.take l.maxIdentifierLength)
  | number (cs : List Char) : Spelled l .number cs .number cs
  | string (content cs : List Char) :
    Spelled l (.string content) cs .string (content.take l.maxStringLength)
  | mark (kind : TokenKind) :
    Spelled l (.symbol kind) kind.literal.toList kind kind.literal.toList

/-- A token stands for a tile. -/
structure Token.Covers (l : Limits) (t : Token) (x : Tile) : Prop where
  length : x.first + t.length = x.stop
  line : t.line = lineBehind x.before
  column : t.column = columnBehind x.before
  spelled : Spelled l x.lexeme x.chars t.kind t.text.toList

/-- The tokens of a text tile it.  The tiles are the only ones into which the text can be
cut; their ranges of bytes ascend without a gap in between.  The tokens stand for some of
them, in their order and with an end behind the last one, and each character of a range
for which no token stands is passed over for a reason. -/
structure TilesSource (l : Limits) (source : String) (tokens : List Token)
    (tiles : List Tile) : Prop where
  tiling : Tiling [] source.toList tiles
  unique : ∀ tiles', Tiling [] source.toList tiles' → tiles' = tiles
  spans : ∀ x ∈ tiles, source.toList = x.before ++ x.chars ++ x.behind ∧
    x.lexeme.Spans x.chars x.behind ∧ x.first < x.stop ∧ x.stop ≤ source.utf8ByteSize
  ascending : tiles.Pairwise fun x y => x.stop ≤ y.first
  tokens : ∃ body,
    tokens = body ++ [.eof (lineBehind source.toList) (columnBehind source.toList)] ∧
      List.Forall₂ (Token.Covers l) body (tiles.filter (·.isToken))
  between : ∀ before c behind, source.toList = before ++ c :: behind →
    (∀ x ∈ tiles, x.isToken = true → ¬ x.Holds (byteSize before)) →
      ∃ x ∈ tiles, x.Holds (byteSize before) ∧ x.PassesOver c

/-! ## Bytes -/

theorem byteSize_append (u v : List Char) : byteSize (u ++ v) = byteSize u + byteSize v := by
  have hfold (start : Nat) (cs : List Char) :
      cs.foldl (fun n c => n + c.utf8Size) start = start + byteSize cs := by
    unfold byteSize
    induction cs generalizing start with
    | nil => rfl
    | cons c cs ih =>
        rw [List.foldl_cons, List.foldl_cons, ih, ih (0 + c.utf8Size)]
        omega
  rw [byteSize, List.foldl_append, hfold]
  rfl

theorem byteSize_pos {cs : List Char} (h : cs ≠ []) : 0 < byteSize cs := by
  obtain ⟨c, cs, rfl⟩ := List.exists_cons_of_ne_nil h
  have hfirst : byteSize [c] = c.utf8Size := Nat.zero_add _
  have hpos := c.utf8Size_pos
  rw [← List.singleton_append, byteSize_append, hfirst]
  omega

theorem byteSize_le_of_prefix {u v : List Char} (h : u <+: v) : byteSize u ≤ byteSize v := by
  obtain ⟨w, rfl⟩ := h
  rw [byteSize_append]
  exact Nat.le_add_right _ _

theorem byteSize_toList (s : String) : byteSize s.toList = s.utf8ByteSize := by
  have hlength (cs : List Char) : byteSize cs = String.utf8Len cs := by
    induction cs with
    | nil => rfl
    | cons c cs ih =>
        have hfirst : byteSize [c] = c.utf8Size := Nat.zero_add _
        rw [← List.singleton_append, byteSize_append, ih, hfirst, List.singleton_append,
          String.utf8Len_cons, Nat.add_comm]
  rw [hlength, ← String.utf8ByteSize_ofList, String.ofList_toList]

/-! ## Cutting a text -/

variable {l : Limits} {before cs : List Char} {tiles : List Tile} {x y : Tile}

theorem exists_tiling (before : List Char) : ∀ cs, ∃ tiles, Tiling before cs tiles := by
  intro cs
  induction h : cs.length using Nat.strong_induction_on generalizing before cs with
  | _ n ih =>
      cases cs with
      | nil => exact ⟨[], .nil before⟩
      | cons c rest =>
          obtain ⟨x, chars, behind, rfl, hspans⟩ := Lexeme.exists_spans c rest
          have hshorter : behind.length < n := by
            rw [← h, List.length_cons, List.length_append]
            omega
          obtain ⟨tiles, htiles⟩ := ih behind.length hshorter (before ++ c :: chars) behind rfl
          exact ⟨_, .cons hspans htiles⟩

theorem Tiling.of_nil (h : Tiling before [] tiles) : tiles = [] := by
  generalize hcs : ([] : List Char) = cs at h
  cases h with
  | nil => rfl
  | cons hspans hrest =>
      exact absurd (List.append_eq_nil_iff.mp hcs.symm).1 hspans.ne_nil

theorem Tiling.of_spans
    {lexeme : Lexeme} {chars behind : List Char} (hspans : lexeme.Spans chars behind)
    (h : Tiling before (chars ++ behind) tiles) :
    ∃ rest, tiles = ⟨lexeme, before, chars, behind⟩ :: rest ∧
      Tiling (before ++ chars) behind rest := by
  generalize hcs : chars ++ behind = cs at h
  cases h with
  | nil => exact absurd (List.append_eq_nil_iff.mp hcs).1 hspans.ne_nil
  | cons hspans' hrest =>
      obtain ⟨rfl, rfl, rfl⟩ := hspans.unique hspans' hcs
      exact ⟨_, rfl, hrest⟩

/-- A text can be cut in one way only. -/
theorem Tiling.unique {tiles' : List Tile} (h : Tiling before cs tiles)
    (h' : Tiling before cs tiles') : tiles' = tiles := by
  induction h generalizing tiles' with
  | nil before => exact h'.of_nil
  | cons hspans hrest ih =>
      obtain ⟨rest, rfl, hrest'⟩ := h'.of_spans hspans
      rw [ih hrest']

/-- Each tile is a part of the text. -/
theorem Tiling.part (h : Tiling before cs tiles) :
    ∀ x ∈ tiles, before ++ cs = x.before ++ x.chars ++ x.behind ∧
      x.lexeme.Spans x.chars x.behind ∧ before <+: x.before := by
  induction h with
  | nil before => exact List.forall_mem_nil _
  | cons hspans hrest ih =>
      refine List.forall_mem_cons.mpr ⟨⟨(List.append_assoc _ _ _).symm, hspans,
        List.prefix_refl _⟩, fun x hx => ?_⟩
      obtain ⟨htext, hspans', hbefore⟩ := ih x hx
      refine ⟨?_, hspans', (List.prefix_append _ _).trans hbefore⟩
      rw [← List.append_assoc, htext]

/-- Each tile begins where or behind where the ones in front of it end. -/
theorem Tiling.ascending (h : Tiling before cs tiles) :
    tiles.Pairwise fun x y => x.before ++ x.chars <+: y.before := by
  induction h with
  | nil before => exact .nil
  | cons hspans hrest ih => exact .cons (fun y hy => (hrest.part y hy).2.2) ih

/-- Each character belongs to a tile. -/
theorem Tiling.exists_part (h : Tiling before cs tiles) {u v : List Char} {c : Char}
    (hcs : cs = u ++ c :: v) :
    ∃ x ∈ tiles, ∃ w w', x.chars = w ++ c :: w' ∧ before ++ u = x.before ++ w := by
  induction h generalizing u with
  | nil before => cases u <;> cases hcs
  | @cons lexeme before chars behind tiles hspans hrest ih =>
      rcases List.append_eq_append_iff.mp hcs with ⟨w, rfl, hbehind⟩ | ⟨w, hchars, hrest'⟩
      · obtain ⟨x, hx, w', w'', hchars, hbefore⟩ := ih hbehind
        refine ⟨x, List.mem_cons_of_mem _ hx, w', w'', hchars, ?_⟩
        rw [← hbefore, List.append_assoc]
      · cases w with
        | nil =>
            obtain ⟨x, hx, w', w'', hchars', hbefore⟩ := ih (u := []) hrest'.symm
            refine ⟨x, List.mem_cons_of_mem _ hx, w', w'', hchars', ?_⟩
            rw [← hbefore, hchars, List.append_nil, List.append_nil]
        | cons c' w =>
            injection hrest' with hc _
            subst hc
            exact ⟨_, List.mem_cons_self, u, w, hchars, rfl⟩

/-! ## Ranges of bytes -/

theorem Tile.first_lt_stop (h : x.chars ≠ []) : x.first < x.stop := by
  rw [first, stop, byteSize_append]
  exact Nat.lt_add_of_pos_right (byteSize_pos h)

theorem Tile.holds_of_part {c : Char} {u w w' : List Char} (hchars : x.chars = w ++ c :: w')
    (hu : u = x.before ++ w) : x.Holds (byteSize u) := by
  have hc : 0 < byteSize (c :: w') := byteSize_pos (List.cons_ne_nil c w')
  rw [Holds, first, stop, hu, hchars, byteSize_append, byteSize_append, byteSize_append]
  omega

theorem Tile.passesOver (hspans : x.lexeme.Spans x.chars x.behind) (hx : x.isToken = false)
    {c : Char} (hc : c ∈ x.chars) : x.PassesOver c := by
  obtain ⟨lexeme, before, chars, behind⟩ := x
  cases lexeme with
  | blank =>
      obtain ⟨c', hblank, rfl⟩ := hspans
      obtain rfl := List.mem_singleton.mp hc
      exact hblank
  | stray c' =>
      obtain ⟨rfl, -⟩ := hspans
      exact (List.mem_singleton.mp hc).symm
  | comment => trivial
  | openString => trivial
  | _ => cases hx

/-! ## Scanning along the tiles -/

/-- A place has the line and the column behind a text. -/
structure Cursor.StandsBehind (p : Cursor) (before : List Char) : Prop where
  line : p.line = lineBehind before
  column : p.column = columnBehind before

theorem Cursor.StandsBehind.step {p : Cursor} {c : Char} {rest : List Char}
    (h : p.StandsBehind before) (hrest : p.rest = c :: rest) :
    p.step.StandsBehind (before ++ [c]) := by
  obtain ⟨hline, hcolumn⟩ := h
  have hstep : p.step.line = (if c = '\n' then p.line + 1 else p.line) ∧
      p.step.column = (if c = '\n' then 1 else p.column + 1) := by
    unfold Cursor.step
    rw [hrest]
    exact ⟨rfl, rfl⟩
  have hreverse : (before ++ [c]).reverse = c :: before.reverse := List.reverse_concat
  constructor
  · rw [hstep.1, hline, lineBehind, lineBehind, List.count_append]
    by_cases hc : c = '\n'
    · rw [if_pos hc, hc]
      rfl
    · rw [if_neg hc, List.count_singleton, if_neg (by simpa using hc)]
      rfl
  · rw [hstep.2, hcolumn, columnBehind, columnBehind, hreverse]
    by_cases hc : c = '\n'
    · rw [if_pos hc, List.takeWhile_cons_of_neg (by simpa using hc)]
      rfl
    · rw [if_neg hc, List.takeWhile_cons_of_pos (by simpa using hc)]
      rfl

theorem Cursor.StandsBehind.advance {p : Cursor} {chars behind : List Char}
    (h : p.StandsBehind before) (hrest : p.rest = chars ++ behind) :
    (p.advance chars.length).StandsBehind (before ++ chars) ∧
      (p.advance chars.length).rest = behind := by
  induction chars generalizing p before with
  | nil =>
      rw [List.append_nil]
      exact ⟨h, hrest⟩
  | cons c chars ih =>
      have hstep : p.step.rest = chars ++ behind := by
        rw [Cursor.rest_step, hrest]
        rfl
      have hadvance := ih (h.step hrest) hstep
      rw [List.append_assoc, List.singleton_append] at hadvance
      exact hadvance

namespace Tile

/-- The text that a tile is a part of. -/
def text (x : Tile) : List Char :=
  x.before ++ (x.chars ++ x.behind)

/-- The place where a tile begins. -/
def place (x : Tile) : Cursor :=
  (Cursor.start x.text).advance x.before.length

/-- The tile as a lexeme with its place. -/
def located (x : Tile) : Located :=
  ⟨x.lexeme, x.place, x.chars⟩

end Tile

theorem Cursor.advance_add (m n : Nat) (p : Cursor) :
    p.advance (m + n) = (p.advance m).advance n := by
  induction m generalizing p with
  | zero => rw [Nat.zero_add, advance]
  | succ m ih => rw [Nat.succ_add, advance, ih, advance]

/-- The lexemes from a place on are the tiles there. -/
theorem lexemesFrom_eq_map_located (h : Tiling before cs tiles) {fuel : Nat} {text : List Char}
    (hfuel : cs.length ≤ fuel) (htext : text = before ++ cs) (found : List Located) :
    lexemesFrom fuel ((Cursor.start text).advance before.length) found =
      (found.reverse ++ tiles.map Tile.located, (Cursor.start text).advance text.length) := by
  have hrest : ((Cursor.start text).advance before.length).rest = cs := by
    rw [Cursor.rest_advance, htext]
    exact List.drop_left
  induction h generalizing fuel found with
  | nil before =>
      rw [List.append_nil] at htext
      rw [List.map_nil, List.append_nil, htext]
      rw [htext] at hrest
      cases fuel with
      | zero => rfl
      | succ fuel => rw [lexemesFrom, hrest]
  | @cons lexeme before chars behind tiles hspans hrest' ih =>
      obtain ⟨c, cs, rfl⟩ := List.exists_cons_of_ne_nil hspans.ne_nil
      cases fuel with
      | zero => cases hfuel
      | succ fuel =>
          have hnext := Lexeme.next_of_spans hspans
          have hfuel' : behind.length ≤ fuel := by
            rw [List.length_append, List.length_cons] at hfuel
            omega
          have htext' : text = (before ++ c :: cs) ++ behind := by
            rw [htext, List.append_assoc]
          have hrest'' : ((Cursor.start text).advance (before ++ c :: cs).length).rest =
              behind := by
            rw [Cursor.rest_advance, htext']
            exact List.drop_left
          have hplace : (Cursor.start text).advance before.length =
              Tile.place ⟨lexeme, before, c :: cs, behind⟩ := by
            rw [Tile.place, Tile.text, htext]
          have htake : ((c :: cs) ++ behind).take (cs.length + 1) = c :: cs := List.take_left' rfl
          rw [List.cons_append] at hrest htake
          rw [lexemesFrom, hrest]
          dsimp only
          rw [hnext]
          dsimp only
          rw [htake, ← Cursor.advance_add]
          have hscan := ih hfuel' htext' (⟨lexeme, Tile.place ⟨lexeme, before, c :: cs, behind⟩,
            c :: cs⟩ :: found) hrest''
          rw [List.length_append, List.length_cons] at hscan
          rw [hplace, hscan, List.reverse_cons, List.append_assoc]
          rfl

theorem lexemes_eq_map_located (h : Tiling [] cs tiles) :
    lexemes cs = (tiles.map Tile.located, (Cursor.start cs).advance cs.length) :=
  lexemesFrom_eq_map_located h (Nat.le_refl _) rfl []

theorem Tile.rest_place (x : Tile) : x.place.rest = x.chars ++ x.behind := by
  rw [place, Cursor.rest_advance]
  exact List.drop_left

theorem Tile.standsBehind_place (x : Tile) : x.place.StandsBehind x.before := by
  have hstart : (Cursor.start x.text).StandsBehind [] := ⟨rfl, rfl⟩
  exact (hstart.advance rfl).1

/-- A located lexeme is that of a tile. -/
structure Located.IsAt (x : Located) (tile : Tile) : Prop where
  lexeme : x.lexeme = tile.lexeme
  chars : x.chars = tile.chars
  start : x.start.StandsBehind tile.before

theorem Tile.isAt_located (x : Tile) : x.located.IsAt x :=
  ⟨rfl, rfl, x.standsBehind_place⟩

theorem lexemes_of_tiling (h : Tiling [] cs tiles) :
    List.Forall₂ Located.IsAt (lexemes cs).1 tiles ∧ (lexemes cs).2.StandsBehind cs := by
  have hstart : (Cursor.start cs).StandsBehind [] := ⟨rfl, rfl⟩
  rw [lexemes_eq_map_located h]
  refine ⟨?_, (hstart.advance (List.append_nil cs).symm).1⟩
  exact List.forall₂_map_left_iff.mpr (List.forall₂_same.mpr fun x _ => x.isAt_located)

/-! ## Tokens -/

theorem spelled_word (l : Limits) (cs : List Char) (hcs : cs.length ≤ l.maxIdentifierLength) :
    Spelled l .word cs ((TokenKind.keyword? (String.ofList cs)).getD .identifier) cs := by
  cases hkeyword : TokenKind.keyword? (String.ofList cs) with
  | some kind =>
      obtain ⟨hliteral, -, -⟩ := TokenKind.keyword?_spec hkeyword
      obtain rfl : kind.literal.toList = cs := by rw [hliteral, String.toList_ofList]
      exact .keyword kind (List.mem_of_find?_eq_some hkeyword) hcs
  | none =>
      have hother : ∀ kind ∈ TokenKind.keywords, kind.literal.toList ≠ cs := by
        rintro kind hkind rfl
        have hnot := List.find?_eq_none.mp hkeyword kind hkind
        rw [String.ofList_toList] at hnot
        exact hnot (decide_eq_true rfl)
      have hidentifier := Spelled.identifier cs (.inr hother) (l := l)
      rwa [List.take_of_length_le hcs] at hidentifier

/-- The token of a lexeme stands for its tile. -/
theorem Located.token?_of_isAt {z : Located} (hz : z.IsAt x)
    (hspans : x.lexeme.Spans x.chars x.behind) :
    if x.isToken then ∃ t, z.token? l = some t ∧ t.Covers l x else z.token? l = none := by
  obtain ⟨lexeme, before, chars, behind⟩ := x
  obtain ⟨lexeme', start, chars'⟩ := z
  obtain ⟨rfl, rfl, hline, hcolumn⟩ := hz
  have hcovers {kind : TokenKind} {text : List Char}
      (hspelled : Spelled l lexeme' chars' kind text) :
      (Located.toToken ⟨lexeme', start, chars'⟩ kind text).Covers l
        ⟨lexeme', before, chars', behind⟩ :=
    ⟨(byteSize_append before chars').symm, hline, hcolumn,
      by rwa [toToken, String.toList_ofList]⟩
  cases lexeme' with
  | word =>
      change ∃ t, (if l.maxIdentifierLength < chars'.length then _ else _) = some t ∧ _
      by_cases hlong : l.maxIdentifierLength < chars'.length
      · rw [if_pos hlong]
        exact ⟨_, rfl, hcovers (.identifier chars' (.inl hlong))⟩
      · rw [if_neg hlong]
        exact ⟨_, rfl, hcovers (spelled_word l chars' (Nat.not_lt.mp hlong))⟩
  | number => exact ⟨_, rfl, hcovers (.number chars')⟩
  | string content => exact ⟨_, rfl, hcovers (.string content chars')⟩
  | symbol kind =>
      obtain rfl : chars' = kind.literal.toList := hspans.chars
      exact ⟨_, rfl, hcovers (.mark kind)⟩
  | blank => rfl
  | comment => rfl
  | openString => rfl
  | stray c => rfl

theorem covers_filterMap_token?
    {zs : List Located} (hzs : List.Forall₂ Located.IsAt zs tiles)
    (hspans : ∀ x ∈ tiles, x.lexeme.Spans x.chars x.behind) :
    List.Forall₂ (Token.Covers l) (zs.filterMap (·.token? l)) (tiles.filter (·.isToken)) := by
  induction hzs with
  | nil => exact .nil
  | @cons z x zs tiles hz _ ih =>
      obtain ⟨hx, hall⟩ := List.forall_mem_cons.mp hspans
      have htoken := Located.token?_of_isAt (l := l) hz hx
      cases hkind : x.isToken with
      | true =>
          rw [hkind, if_pos rfl] at htoken
          obtain ⟨t, ht, hcovers⟩ := htoken
          rw [List.filterMap_cons_some ht, List.filter_cons_of_pos hkind]
          exact .cons hcovers (ih hall)
      | false =>
          rw [hkind, if_neg nofun] at htoken
          rw [List.filterMap_cons_none htoken, List.filter_cons_of_neg (by rw [hkind]; nofun)]
          exact ih hall

/-- Every text that is short enough is tiled by its tokens. -/
theorem exists_tilesSource {source : String} (hbudget : l.expired = false)
    (hsize : source.utf8ByteSize ≤ l.maxTotalLength) :
    ∃ tiles, TilesSource l source (tokenize l source).tokens tiles := by
  obtain ⟨tiles, htiling⟩ := exists_tiling [] source.toList
  have hpart := htiling.part
  obtain ⟨hlexemes, hline, hcolumn⟩ := lexemes_of_tiling htiling
  refine ⟨tiles, htiling, fun tiles' h' => htiling.unique h', fun x hx => ?_, ?_, ?_, ?_⟩
  · obtain ⟨htext, hspans, -⟩ := hpart x hx
    rw [List.nil_append] at htext
    refine ⟨htext, hspans, x.first_lt_stop hspans.ne_nil, ?_⟩
    rw [← byteSize_toList, htext]
    exact byteSize_le_of_prefix (List.prefix_append _ _)
  · exact htiling.ascending.imp byteSize_le_of_prefix
  · refine ⟨_, ?_, covers_filterMap_token? hlexemes fun x hx => (hpart x hx).2.1⟩
    rw [tokenize_still, if_neg (Nat.not_lt.mpr hsize), hbudget, if_neg nofun, ← hline, ← hcolumn]
  · intro before c behind htext hnone
    obtain ⟨x, hx, w, w', hchars, hbefore⟩ := htiling.exists_part htext
    rw [List.nil_append] at hbefore
    have hholds := x.holds_of_part hchars hbefore
    have hgap : x.isToken = false :=
      Bool.eq_false_iff.mpr fun htoken => hnone x hx htoken hholds
    refine ⟨x, hx, hholds, x.passesOver (hpart x hx).2.1 hgap ?_⟩
    rw [hchars]
    exact List.mem_append_right w List.mem_cons_self

/-- A text with a comment, an escaped quote, a stray character and a line feed in a
string. -/
theorem exists_tilesSource_escape :
    ({} : Limits).expired = false ∧
      "é // a \"\n\"\\\"\n\" 1.x".utf8ByteSize ≤ ({} : Limits).maxTotalLength ∧
      ∃ tiles, TilesSource {} "é // a \"\n\"\\\"\n\" 1.x"
        (tokenize {} "é // a \"\n\"\\\"\n\" 1.x").tokens tiles := by
  have hbudget : ({} : Limits).expired = false := by decide
  have hsize : "é // a \"\n\"\\\"\n\" 1.x".utf8ByteSize ≤ ({} : Limits).maxTotalLength := by
    decide
  exact ⟨hbudget, hsize, exists_tilesSource hbudget hsize⟩

end TraceCheck
