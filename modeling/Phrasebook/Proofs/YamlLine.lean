import Mathlib.Control.Monad.Basic
import Phrasebook.Proofs.PlainWord
import Phrasebook.Yaml.Document

/-!
# A line of a YAML text

A text that is one line, a word as the key and a word as the value, is a document that maps the one to
the other. The scanner takes four steps for it: it reads the key without knowing that it is one, makes
it a key at the colon, reads the value up to the end of the text, and ends there.

## Contents
- `IsLineEnd`: what may stand behind the value
- `Scanner.fetch_*`: the four steps
- `scan_line`: the tokens of the line
- `ofTokens_line`, `ofBytes_line`, `read_line`: its node, its document, and what is read from it
-/

namespace Phrasebook.Yaml

/-- What may stand **behind the last word** of a text: a line feed, or nothing. -/
def IsLineEnd (cs : List Char) : Prop := cs = [] ∨ cs = ['\n']

/-- A plain scalar ends with the text: behind a line feed nothing is indented. -/
theorem plainGap_lineEnd {tail : List Char} (htail : IsLineEnd tail) (n i l col : Nat) :
    ∃ gap, plainGap (n + 2) ⟨tail, i, l, col⟩ = gap ∧ gap.cursor.rest = [] ∧
      (gap.text = [] ∨ gap.cursor.column = 0) := by
  rcases htail with rfl | rfl
  · exact ⟨_, rfl, rfl, Or.inl rfl⟩
  · exact ⟨_, rfl, rfl, Or.inr rfl⟩

/-! ## From token to token -/

namespace Scanner

variable {s s' : Scanner} {c : Char} {cs : List Char}

theorem require_of_ending (h : s.ending = none) (count : Nat) : s.require count = .ok () := by
  unfold require
  rw [h]

theorem skipBlanks_of_isAlpha (hc : c.isAlpha = true) : s.skipBlanks false (c :: cs) = s := by
  simp [skipBlanks, isBreak_of_isNameChar (isNameChar_of_isAlpha hc), Text.ne_of_class (x := ' ') hc rfl,
    Text.ne_of_class (x := '#') hc rfl]

/-- Where the position is deep enough no collection ends. -/
theorem unwind_of_le {column : Int} (h : s.indent ≤ column) : s.unwind column = s := by
  have hblocks : closeBlocks column s.indents s = s := by
    unfold closeBlocks
    split
    · rfl
    · exact if_neg (by omega)
  unfold unwind
  rw [hblocks, ite_self]

/-- A letter starts a plain scalar. -/
theorem dispatch_of_isAlpha (hrest : s.cursor.rest = c :: cs) (hc : c.isAlpha = true) :
    s.dispatch c = s.plainToken := by
  have hne : ∀ x : Char, x.isAlpha = false → c ≠ x := fun x hx => Text.ne_of_class hc hx
  have hmarker : isAtMarker s.cursor.rest = false := by
    rw [hrest]
    unfold isAtMarker
    split
    · rename_i heq
      exact absurd (List.cons.inj heq).1 (hne '-' rfl)
    · rename_i heq
      exact absurd (List.cons.inj heq).1 (hne '.' rfl)
    · rfl
  have hstart : isPlainStart c = true := by
    have hname := isNameChar_of_isAlpha hc
    simp [isPlainStart, isBreak_of_isNameChar hname, isGap_of_isNameChar hname, hne]
  unfold dispatch
  simp [hmarker, hne, startsPlain, hstart]

/-- A colon before a space separates a key from its value. -/
theorem dispatch_colon (hrest : s.cursor.rest = ':' :: ' ' :: cs) : s.dispatch ':' = s.valueMark := by
  have hmarker : isAtMarker s.cursor.rest = false := by
    rw [hrest]
    rfl
  have hword : endsWord s.cursor.peekSecond = true := by
    unfold Cursor.peekSecond
    rw [hrest]
    rfl
  unfold dispatch
  simp [hmarker, hword]

/-- A word becomes the token of a plain scalar, when the scalar does not go on behind it. -/
theorem plainToken_word {ws rest : List Char} (hws : IsWord ws) (hrest : plainRun false rest = [])
    {n i l col : Nat} {gap : PlainGap} (hcursor : s.cursor = ⟨ws ++ rest, i, l, col⟩)
    (hnote : s.noteKey = .ok s') (hending : s'.ending = none) (hdepth : s'.depth = 0)
    (hbound : s'.bound = n + 1)
    (hgap : plainGap (n + 1) ⟨rest, i + ws.length, l, col + ws.length⟩ = gap)
    (hends : gap.text = [] ∨ (gap.cursor.column : Int) < s'.indent + 1) :
    s.plainToken = .ok { s'.push (.scalar (String.ofList ws) true) with
      cursor := gap.cursor
      keyAllowed := gap.breaks } := by
  have hblock : s'.inFlow = false := by
    unfold inFlow
    rw [hdepth]
    rfl
  have hplain := plainScalar_word hws hrest hgap hends
  unfold plainToken
  simp only [hnote, hcursor, hblock, hbound, hplain, bind, Except.bind]
  rw [require_of_ending (by exact hending), require_of_ending (by exact hending)]
  rfl

/-- The next token, where no collection ends before it, is what its first character starts. -/
theorem fetch_eq {r : Scanner} (hblanks : s.skipBlanks false s.cursor.rest = s')
    (hending : s'.ending = none) (hkeys : s'.dropStaleKeys = .ok s')
    (hopen : s'.unwind s'.cursor.column = s') (hpeek : s'.cursor.peek = some c)
    (hdispatch : s'.dispatch c = .ok r) (hending' : r.ending = none) : s.fetch = .ok r := by
  unfold fetch
  simp only [hblanks, hkeys, hopen, hpeek, hdispatch, require_of_ending hending,
    require_of_ending hending', bind, Except.bind]
  rfl

/-- Where nothing is left the text ends. -/
theorem fetch_eq_finish (hrest : s.cursor.rest = []) (hending : s.ending = none)
    (hkeys : s.dropStaleKeys = .ok s) (hopen : s.unwind s.cursor.column = s) : s.fetch = s.finish := by
  have hblanks : s.skipBlanks false s.cursor.rest = s := by
    rw [hrest]
    rfl
  have hpeek : s.cursor.peek = none := by
    unfold Cursor.peek
    rw [hrest]
    rfl
  unfold fetch
  simp only [hblanks, require_of_ending hending, hkeys, hopen, hpeek, bind, Except.bind]

/-! ## All tokens -/

/-- A step after which tokens are handed on. -/
theorem run_succ {r : Scanner} {acc handed : List Token} {n : Nat} (hfetch : s.fetch = .ok s')
    (hended : s'.ended = false) (hkeys : s'.dropStaleKeys = .ok s') (hhand : s'.handOn = (handed, r)) :
    run (n + 1) acc s = run n (handed.reverse ++ acc) r := by
  rw [run, hfetch]
  simp [hended, hkeys, hhand]

/-- The step that reaches the end. -/
theorem run_succ_of_ended {acc : List Token} {n : Nat} (hfetch : s.fetch = .ok s')
    (hended : s'.ended = true) : run (n + 1) acc s = acc.reverse ++ s'.tokens := by
  rw [run, hfetch]
  simp [hended]

/-! ## The four steps -/

section Line

variable {k v rest tail : List Char} {b : Nat} {gap : PlainGap}

/-- **Before the key**, at the start of the text. -/
def beforeKey (b : Nat) (k rest : List Char) : Scanner :=
  { cursor := Cursor.start (k ++ ':' :: ' ' :: rest), ending := none, bound := b }

/-- **Behind the key**, whose place is kept. -/
def behindKey (b : Nat) (k rest : List Char) : Scanner :=
  { cursor := ⟨':' :: ' ' :: rest, k.length, 0, k.length⟩
    ending := none
    bound := b
    tokens := [.scalar (String.ofList k) true]
    keyAllowed := false
    keys := [(0, ⟨0, false, Cursor.start (k ++ ':' :: ' ' :: rest)⟩)] }

/-- **Behind the colon**, which has opened a mapping in front of the key. -/
def behindColon (b : Nat) (k rest : List Char) : Scanner :=
  { cursor := ⟨' ' :: rest, k.length + 1, 0, k.length + 1⟩
    ending := none
    bound := b
    tokens := [.blockMappingStart, .key, .scalar (String.ofList k) true, .value]
    indent := 0
    indents := [-1]
    keyAllowed := false }

/-- **Before the value**: nothing can be put in front of the tokens up to there any more. -/
def beforeValue (b : Nat) (k rest : List Char) : Scanner :=
  { behindColon b k rest with handed := 4, tokens := [] }

/-- **Behind the value**, and the gap after it. -/
def behindValue (b : Nat) (k v : List Char) (gap : PlainGap) : Scanner :=
  { beforeValue b k v with
    cursor := gap.cursor
    tokens := [.scalar (String.ofList v) true]
    keyAllowed := gap.breaks }

/-- **At the end** of the text, when the value is handed on as well. -/
def atEnd (b : Nat) (k v : List Char) (gap : PlainGap) : Scanner :=
  { behindValue b k v gap with handed := 5, tokens := [] }

theorem fetch_beforeKey (hk : IsWord k) :
    (beforeKey (b + 1) k rest).fetch = .ok (behindKey (b + 1) k rest) := by
  obtain ⟨c, cs, rfl, hc, -⟩ := id hk
  have hgap : plainGap (b + 1) ⟨':' :: ' ' :: rest, 0 + (c :: cs).length, 0, 0 + (c :: cs).length⟩ =
      ⟨[], ⟨':' :: ' ' :: rest, 0 + (c :: cs).length, 0, 0 + (c :: cs).length⟩, false⟩ := rfl
  have htoken := plainToken_word (s := beforeKey (b + 1) (c :: cs) rest) hk rfl rfl rfl rfl rfl rfl
    hgap (Or.inl rfl)
  refine fetch_eq (skipBlanks_of_isAlpha hc) rfl rfl rfl rfl ?_ rfl
  rw [dispatch_of_isAlpha rfl hc, htoken]
  simp [behindKey, beforeKey, push, inFlow, Cursor.start]

/-- The key is not too long to be one. -/
theorem dropStaleKeys_behindKey (hk : k.length ≤ 1024) :
    (behindKey b k rest).dropStaleKeys = .ok (behindKey b k rest) := by
  have hnear : ¬ 1024 < k.length := by omega
  simp [dropStaleKeys, behindKey, Cursor.start, hnear]

theorem fetch_behindKey (hk : k.length ≤ 1024) :
    (behindKey b k rest).fetch = .ok (behindColon b k rest) :=
  fetch_eq rfl rfl (dropStaleKeys_behindKey hk) rfl rfl (dispatch_colon rfl) rfl

theorem fetch_beforeValue (hv : IsWord v) (htail : IsLineEnd tail) :
    ∃ gap, gap.cursor.rest = [] ∧
      (beforeValue (b + 2) k (v ++ tail)).fetch = .ok (behindValue (b + 2) k v gap) := by
  obtain ⟨gap, hgap, hrest, hends⟩ := plainGap_lineEnd htail b (k.length + 2 + v.length) 0
    (k.length + 2 + v.length)
  have hrun : plainRun false tail = [] := by
    rcases htail with rfl | rfl
    · rfl
    · rfl
  have hblock : gap.text = [] ∨ (gap.cursor.column : Int) < 1 := by
    rcases hends with htext | hcolumn
    · exact Or.inl htext
    · exact Or.inr (by omega)
  obtain ⟨c, cs, rfl, hc, -⟩ := id hv
  -- the space after the colon is skipped
  let s : Scanner := { beforeValue (b + 2) k (c :: cs ++ tail) with
    cursor := ⟨c :: cs ++ tail, k.length + 2, 0, k.length + 2⟩ }
  have hblanks : (beforeValue (b + 2) k (c :: cs ++ tail)).skipBlanks false
      (beforeValue (b + 2) k (c :: cs ++ tail)).cursor.rest = s := skipBlanks_of_isAlpha hc
  have htoken := plainToken_word (s := s) hv hrun rfl rfl rfl rfl rfl hgap hblock
  have hopen : s.unwind s.cursor.column = s := unwind_of_le (Int.natCast_nonneg _)
  refine ⟨gap, hrest, fetch_eq hblanks rfl rfl hopen rfl ?_ rfl⟩
  rw [dispatch_of_isAlpha rfl hc, htoken]
  rfl

theorem fetch_atEnd (hgap : gap.cursor.rest = []) :
    ∃ s, (atEnd b k v gap).fetch = .ok s ∧ s.ended = true ∧ s.tokens = [.blockEnd, .streamEnd] := by
  rw [fetch_eq_finish hgap rfl rfl (unwind_of_le (Int.natCast_nonneg _))]
  exact ⟨_, rfl, rfl, rfl⟩

end Line

end Scanner

variable {k v tail : List Char}

open Scanner in
/-- **The tokens of a line**: a mapping with one pair. -/
theorem scan_line (hk : IsWord k) (hlength : k.length ≤ 1024) (hv : IsWord v)
    (htail : IsLineEnd tail) :
    Token.scan ⟨k ++ ':' :: ' ' :: (v ++ tail), none⟩ =
      [.blockMappingStart, .key, .scalar (String.ofList k) true, .value,
        .scalar (String.ofList v) true, .blockEnd, .streamEnd] := by
  have hmark : (Cursor.start (k ++ ':' :: ' ' :: (v ++ tail))).peek ≠ some '\ufeff' := by
    obtain ⟨c, cs, rfl, hc, -⟩ := hk
    simpa [Cursor.peek, Cursor.start] using Text.ne_of_class (x := '\ufeff') hc rfl
  obtain ⟨b, hb⟩ : ∃ b, (k ++ ':' :: ' ' :: (v ++ tail)).length = b + 2 :=
    ⟨k.length + (v ++ tail).length, by simp [Nat.add_assoc]⟩
  obtain ⟨gap, hgap, hvalue⟩ := fetch_beforeValue (b := b + 2) (k := k) hv htail
  obtain ⟨s, hend, hended, htokens⟩ := fetch_atEnd (b := b + 4) (k := k) (v := v) hgap
  have hkeys : (behindKey (b + 4) k (v ++ tail)).dropStaleKeys = .ok _ :=
    dropStaleKeys_behindKey hlength
  calc Token.scan ⟨k ++ ':' :: ' ' :: (v ++ tail), none⟩
      = run (b + 4) [] (beforeKey (b + 4) k (v ++ tail)) := by
        unfold Token.scan
        simp only [if_neg hmark]
        rw [hb]
        rfl
    _ = run (b + 3) [] (behindKey (b + 4) k (v ++ tail)) :=
        run_succ (fetch_beforeKey hk) rfl hkeys rfl
    _ = run (b + 2) [.value, .scalar (String.ofList k) true, .key, .blockMappingStart]
          (beforeValue (b + 4) k (v ++ tail)) :=
        run_succ (fetch_behindKey hlength) rfl rfl rfl
    _ = run (b + 1) [.scalar (String.ofList v) true, .value, .scalar (String.ofList k) true, .key,
          .blockMappingStart] (atEnd (b + 4) k v gap) :=
        run_succ hvalue rfl rfl rfl
    _ = _ := by
        rw [run_succ_of_ended hend hended, htokens]
        rfl

/-! ## The document -/

/-- The nodes of a mapping with one pair of plain scalars. -/
theorem ofTokens_line (k v : String) :
    Graph.ofTokens [.blockMappingStart, .key, .scalar k true, .value, .scalar v true, .blockEnd,
      .streamEnd] =
      .ok (some ⟨#[⟨.mapping, .mapping [(1, 2)]⟩, ⟨.ofPlain k, .scalar k⟩, ⟨.ofPlain v, .scalar v⟩],
        0⟩) := rfl

/-- The document of a mapping of one text to another. -/
theorem build_text (k v : String) :
    ∃ s, (Document.build 0).run
      { nodes := #[⟨.mapping, .mapping [(1, 2)]⟩, ⟨.text, .scalar k⟩, ⟨.text, .scalar v⟩] } =
        .ok (.mapping [(.text k, some (.text v))], s) :=
  ⟨_, rfl⟩

section Results
variable {α β : Type}

theorem Build.pure_eq_ok (a : α) : (pure a : Except Fault α) = .ok a := rfl

theorem Build.ok_bind (a : α) (f : α → Except Fault β) : (Except.ok a >>= f) = f a := rfl

end Results

/-- A truth value is built from its scalar. -/
theorem Build.run_value_bool {s : Builder} {id : NodeId} {v : String} {b : Bool}
    (hnew : s.built.lookup id = none) (hnode : s.nodes[id]? = some ⟨.bool, .scalar v⟩)
    (hv : Scalar.boolOfText v = .ok b) :
    (value id).run s = .ok (some (.bool b), { s with built := (id, some (.bool b)) :: s.built }) := by
  have hmade : Scalar.ofText? .bool v = some (.ok (.bool b)) := by
    unfold Scalar.ofText?
    rw [hv]
    rfl
  have hempty : (Scalar.ofText? .bool "").isSome = true := rfl
  simp [value, node, hnew, hnode, scalarText, isScalarNode, hmade, hempty, ok_bind, pure_eq_ok]

open Build in
/-- The document of a mapping of a text to a truth value. -/
theorem build_bool (k : String) {v : String} {b : Bool} (hv : Scalar.boolOfText v = .ok b) :
    ∃ s, (Document.build 0).run
      { nodes := #[⟨.mapping, .mapping [(1, 2)]⟩, ⟨.text, .scalar k⟩, ⟨.bool, .scalar v⟩] } =
        .ok (.mapping [(.text k, some (.bool b))], s) := by
  let nodes : Array Node := #[⟨.mapping, .mapping [(1, 2)]⟩, ⟨.text, .scalar k⟩, ⟨.bool, .scalar v⟩]
  let opened : Builder := { nodes, built := [(0, none)] }
  let keyed : Builder := { nodes, built := [(1, some (.text k)), (0, none)] }
  let whole : Builder := { nodes, built := [(2, some (.bool b)), (1, some (.text k)), (0, none)] }
  have hnode : nodes[0]? = some ⟨.mapping, .mapping [(1, 2)]⟩ := rfl
  have hcounts : Document.pairCount nodes = 1 ∧ nodes.size = 3 := ⟨rfl, rfl⟩
  -- the mapping is built without its parts, then the key and the value are
  have htop : (value 0).run { nodes } = .ok (none, { opened with waiting := [0] }) := rfl
  have hflatten : (flatten 2 0).run opened = .ok ((), opened) := rfl
  have hkey : (value 1).run opened = .ok (some (.text k), keyed) := rfl
  have hvalue : (value 2).run keyed = .ok (some (.bool b), whole) := run_value_bool rfl rfl hv
  have hparts : (parts 2 0).run opened = .ok ((), whole) := by
    simp [parts, key, pairs, node, opened, hnode, hflatten, hkey, hvalue, ok_bind, pure_eq_ok]
  have hfinish : (finish 2 4).run { opened with waiting := [0] } = .ok ((), whole) := by
    have hdone : (finish 2 3).run whole = .ok ((), whole) := rfl
    rw [finish]
    simp [opened, hparts, hdone, ok_bind]
  show ∃ s, (Document.build 0).run { nodes } = .ok (.mapping [(.text k, some (.bool b))], s)
  simp [Document.build, key, node, htop, hfinish, hcounts, ok_bind, pure_eq_ok]
  exact ⟨_, rfl⟩

variable {e : String}

/-- The ways in which the line of a file may end. -/
def lineEnds : List String := ["", "\n", "\r\n", "\r"]

theorem unifyLineEnds_append {cs ds : List Char} (h : '\r' ∉ cs) :
    Text.unifyLineEnds (cs ++ ds) = cs ++ Text.unifyLineEnds ds := by
  induction cs with
  | nil => rfl
  | cons c cs ih =>
    rw [List.mem_cons, not_or] at h
    rw [List.cons_append, Text.unifyLineEnds, ih h.2, List.cons_append]
    · rintro rest rfl
      exact absurd rfl h.1
    · rintro rfl
      exact absurd rfl h.1

theorem unifyLineEnds_lineEnd (he : e ∈ lineEnds) : IsLineEnd (Text.unifyLineEnds e.toList) := by
  simp only [lineEnds, List.mem_cons, List.not_mem_nil, or_false] at he
  rcases he with rfl | rfl | rfl | rfl
  · exact Or.inl rfl
  · exact Or.inr rfl
  · exact Or.inr rfl
  · exact Or.inr rfl

/-- The characters of a file that is one line. -/
theorem ofBytes_line {k v : String} (hk : IsWord k.toList) (hv : IsWord v.toList) (he : e ∈ lineEnds) :
    ∃ tail, IsLineEnd tail ∧ Stream.ofBytes (k ++ ": " ++ v ++ e).toUTF8 =
      .ok ⟨k.toList ++ ':' :: ' ' :: (v.toList ++ tail), none⟩ := by
  have htail := unifyLineEnds_lineEnd he
  refine ⟨Text.unifyLineEnds e.toList, htail, ?_⟩
  have htext : String.fromUTF8? (k ++ ": " ++ v ++ e).toUTF8 = some (k ++ ": " ++ v ++ e) :=
    Text.fromUTF8?_toUTF8 _
  have hreturn : '\r' ∉ k.toList ++ ':' :: ' ' :: v.toList := by
    simp [hk.not_mem (x := '\r') rfl, hv.not_mem (x := '\r') rfl]
  have hchars : Text.unifyLineEnds (k ++ ": " ++ v ++ e).toList =
      k.toList ++ ':' :: ' ' :: (v.toList ++ Text.unifyLineEnds e.toList) := by
    have hlist : (k ++ ": " ++ v ++ e).toList = (k.toList ++ ':' :: ' ' :: v.toList) ++ e.toList := by
      simp [String.toList_append]
    rw [hlist, unifyLineEnds_append hreturn]
    simp
  have hallowed : (k.toList ++ ':' :: ' ' :: (v.toList ++ Text.unifyLineEnds e.toList)).all isAllowed
      = true := by
    have hwords : ∀ cs : List Char, IsWord cs → cs.all isAllowed = true := fun cs hcs =>
      List.all_eq_true.mpr fun c hc => isAllowed_of_isNameChar (hcs.isNameChar c hc)
    have hend : (Text.unifyLineEnds e.toList).all isAllowed = true := by
      rcases htail with h | h
      · rw [h]
        rfl
      · rw [h]
        rfl
    rw [List.all_append, List.all_cons, List.all_cons, List.all_append, hwords _ hk, hwords _ hv, hend]
    rfl
  unfold Stream.ofBytes
  rw [htext]
  simp only [Option.map_some, hchars, Option.filter, hallowed, if_true]

/-- The document of a line is the one of its mapping's nodes. -/
theorem read_line {k v : String} (hk : IsWord k.toList) (hlength : k.length ≤ 1024)
    (hv : IsWord v.toList) (he : e ∈ lineEnds) {document : Document}
    (hbuild : ∃ s, (Document.build 0).run
      { nodes := #[⟨.mapping, .mapping [(1, 2)]⟩, ⟨.ofPlain k, .scalar k⟩,
        ⟨.ofPlain v, .scalar v⟩] } = .ok (document, s)) :
    Document.read (k ++ ": " ++ v ++ e).toUTF8 = .ok document := by
  obtain ⟨tail, htail, hstream⟩ := ofBytes_line hk hv he
  have htokens := scan_line hk hlength hv htail
  rw [String.ofList_toList, String.ofList_toList] at htokens
  obtain ⟨s, hs⟩ := hbuild
  unfold Document.read
  simp only [hstream]
  unfold Document.ofStream
  simp only [htokens, ofTokens_line, hs]

/-- **The document of a line** whose words mean texts. -/
theorem read_line_text {k v : String} (hk : IsWord k.toList) (hlength : k.length ≤ 1024)
    (hv : IsWord v.toList) (he : e ∈ lineEnds) (hkey : ValueType.ofPlain k = .text)
    (hvalue : ValueType.ofPlain v = .text) :
    Document.read (k ++ ": " ++ v ++ e).toUTF8 = .ok (.mapping [(.text k, some (.text v))]) := by
  refine read_line hk hlength hv he ?_
  rw [hkey, hvalue]
  exact build_text k v

/-- **The document of a line** whose second word is one for a truth value. -/
theorem read_line_bool {k v : String} (hk : IsWord k.toList) (hlength : k.length ≤ 1024)
    (hv : IsWord v.toList) (he : e ∈ lineEnds) (hkey : ValueType.ofPlain k = .text)
    (hvalue : ValueType.ofPlain v = .bool) {b : Bool} (hb : Scalar.boolOfText v = .ok b) :
    Document.read (k ++ ": " ++ v ++ e).toUTF8 = .ok (.mapping [(.text k, some (.bool b))]) := by
  refine read_line hk hlength hv he ?_
  rw [hkey, hvalue]
  exact build_bool k hb

end Phrasebook.Yaml
