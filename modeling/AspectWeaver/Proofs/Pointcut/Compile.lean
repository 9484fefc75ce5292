import AspectWeaver.Proofs.Pointcut.Grammar
import AspectWeaver.Proofs.Pointcut.Matching
import AspectWeaver.Regex.Standard
import AspectWeaver.Text.Bytes
import Mathlib.Data.List.Basic
import Mathlib.Data.List.TakeWhile

/-!
# Making pointcuts from text

A selector can be read in a second way: by byte positions at which the text is cut, where a cut fails between
the bytes of a character or behind the end (`Pointcut.compileByPosition`). No cut ever fails, so both ways agree.
The top is `compile_grammar`: which texts are selectors, what they say, and what is answered for the others and for
those whose pattern is too large for the engine.
-/

set_option autoImplicit false

namespace AspectWeaver

/-! ## Positions -/

namespace Text

/-- The text between two byte positions, if they are in order and at the edges of characters. -/
def between? (first last : Nat) (cs : List Char) : Option (List Char) :=
  if first ≤ last then sliceBytes? first last cs else none

/-- The byte position of the first `c`. -/
def bytePosition? (c : Char) : List Char → Option Nat
  | [] => none
  | x :: xs => if x = c then some 0 else (bytePosition? c xs).map (x.utf8Size + ·)

/-- What stands between two edges of characters is cut out. -/
theorem between?_append (front piece rest : List Char) :
    between? (byteLength front) (byteLength (front ++ piece)) (front ++ piece ++ rest) = some piece := by
  have hle : byteLength front ≤ byteLength (front ++ piece) := by
    rw [byteLength_append]
    exact Nat.le_add_right _ _
  have hdrop : dropBytes? (byteLength front) (front ++ piece ++ rest) = some (piece ++ rest) := by
    rw [List.append_assoc, dropBytes?_append]
  rw [between?, if_pos hle, sliceBytes?, hdrop, byteLength_append, Nat.add_sub_cancel_left]
  exact takeBytes?_append piece rest

/-- The first of a character is found behind the bytes before it. -/
theorem bytePosition?_append {c : Char} {front : List Char} (h : c ∉ front) (rest : List Char) :
    bytePosition? c (front ++ c :: rest) = some (byteLength front) := by
  induction front with
  | nil => rw [List.nil_append, bytePosition?, if_pos rfl, byteLength_nil]
  | cons x front ih =>
    obtain ⟨hx, hfront⟩ := not_or.mp (mt List.mem_cons.mpr h)
    rw [List.cons_append, bytePosition?, if_neg (Ne.symm hx), ih hfront, Option.map_some, byteLength_cons]

/-- A character that is not there has no position. -/
theorem bytePosition?_of_not_mem {c : Char} {cs : List Char} (h : c ∉ cs) : bytePosition? c cs = none := by
  induction cs with
  | nil => rfl
  | cons x cs ih =>
    obtain ⟨hx, hcs⟩ := not_or.mp (mt List.mem_cons.mpr h)
    rw [bytePosition?, if_neg (Ne.symm hx), ih hcs, Option.map_none]

end Text

namespace ParamSpec

/-- Cuts `raw` at the commas outside all brackets. What is left of it stands at the position `here`; the piece
that is being read began at `start`. -/
def cutTypes (raw : List Char) (start depth here : Nat) : List Char → Option (List (List Char))
  | [] => (Text.dropBytes? start raw).map fun piece => [piece]
  | c :: cs =>
    if c = ',' ∧ depth = 0 then
      (Text.between? start here raw).bind fun piece =>
        (cutTypes raw (here + 1) 0 (here + c.utf8Size) cs).map (piece :: ·)
    else cutTypes raw start (depthAfter depth c) (here + c.utf8Size) cs

/-- Reads what stands between the parentheses by positions. -/
def readByPosition (raw : List Char) : Option (Except SelectorFault ParamSpec) :=
  if raw = [] then some (.ok .empty)
  else if raw = ellipsis then some (.ok .any)
  else (cutTypes raw 0 0 0 raw).map fun types =>
    if types.any (·.isEmpty) then .error .emptyParameter
    else if types.contains ellipsis then .error .mixedEllipsis
    else .ok (.exact (types.map String.ofList))

/-- A character that does not cut is the first of the first piece. -/
theorem splitTypes_cons {depth : Nat} {c : Char} (h : ¬ (c = ',' ∧ depth = 0)) (cs : List Char) :
    splitTypes depth (c :: cs) = (splitTypes (depthAfter depth c) cs).modifyHead (c :: ·) := by
  have hne := splitTypes_ne_nil (depthAfter depth c) cs
  rw [splitTypes, if_neg h]
  cases hpieces : splitTypes (depthAfter depth c) cs with
  | nil => exact absurd hpieces hne
  | cons piece pieces => rfl

/-- Putting nothing before the first piece changes nothing. -/
theorem modifyHead_nil_append (pieces : List (List Char)) : pieces.modifyHead ([] ++ ·) = pieces := by
  cases pieces <;> rfl

/-- All cuts succeed: `front` has been cut off, and `piece` is what has been read of the next piece. -/
theorem cutTypes_eq {raw front piece cs : List Char} (depth : Nat) (hraw : raw = front ++ piece ++ cs) :
    cutTypes raw (Text.byteLength front) depth (Text.byteLength (front ++ piece)) cs =
      some ((splitTypes depth cs).modifyHead (piece ++ ·)) := by
  induction cs generalizing front piece depth with
  | nil =>
    rw [cutTypes, hraw, List.append_nil, Text.dropBytes?_append]
    simp [splitTypes]
  | cons c cs ih =>
    by_cases hcut : c = ',' ∧ depth = 0
    · obtain ⟨rfl, rfl⟩ := hcut
      have hbetween : Text.between? (Text.byteLength front) (Text.byteLength (front ++ piece)) raw = some piece := by
        rw [hraw]
        exact Text.between?_append front piece _
      have hnext : raw = (front ++ piece ++ [',']) ++ [] ++ cs := by simp [hraw]
      have hrest := ih 0 hnext
      have hstart : Text.byteLength (front ++ piece ++ [',']) = Text.byteLength (front ++ piece) + 1 :=
        Text.byteLength_append _ _
      have hhere : ','.utf8Size = 1 := rfl
      rw [List.append_nil, hstart] at hrest
      rw [cutTypes, if_pos ⟨rfl, rfl⟩, hbetween, Option.bind_some, hhere, hrest, modifyHead_nil_append, splitTypes,
        if_pos ⟨rfl, rfl⟩]
      simp
    · have hnext : raw = front ++ (piece ++ [c]) ++ cs := by simp [hraw]
      have hrest := ih (depthAfter depth c) hnext
      have hhere : Text.byteLength (front ++ (piece ++ [c])) =
          Text.byteLength (front ++ piece) + c.utf8Size := by
        rw [← List.append_assoc, Text.byteLength_append]
        rfl
      rw [hhere] at hrest
      rw [cutTypes, if_neg hcut, hrest, splitTypes_cons hcut, List.modifyHead_modifyHead]
      simp [Function.comp_def]

/-- Reading a parameter list by positions gives what reading it gives. -/
theorem readByPosition_eq (raw : List Char) : readByPosition raw = some (parse raw) := by
  have htypes : cutTypes raw 0 0 0 raw = some (splitTypes 0 raw) := by
    have hstart : raw = [] ++ [] ++ raw := rfl
    have hcut := cutTypes_eq 0 hstart
    rwa [modifyHead_nil_append] at hcut
  unfold readByPosition parse
  rw [htypes, Option.map_some]
  split
  · rfl
  · split <;> rfl

end ParamSpec

namespace SelectorParts

/-- Reads a text without blank characters by positions. -/
def readByPosition (cs : List Char) : Option (Except SelectorFault SelectorParts) :=
  if cs = [] then some (.error .empty)
  else match Text.bytePosition? '(' cs with
    | none => some (.error .noParameterList)
    | some position =>
      if cs.getLast? ≠ some ')' then some (.error .parameterListNotLast)
      else (Text.between? 0 position cs).bind fun head =>
        if head.any fun c => c == ')' || c == ',' then some (.error .strayCharacter)
        else (Text.between? (position + 1) (Text.byteLength cs - 1) cs).bind fun raw =>
          if raw.any fun c => c == '(' || c == ')' then some (.error .unbalancedParentheses)
          else match splitHead head with
            | .error fault => some (.error fault)
            | .ok (typeSegments, method) =>
              (ParamSpec.readByPosition raw).map fun params =>
                params.map fun params => ⟨typeSegments, method, params⟩

/-- What stands between the first parenthesis and the last is cut out. -/
theorem between?_parentheses (head raw : List Char) :
    Text.between? (Text.byteLength head + 1) (Text.byteLength (head ++ '(' :: (raw ++ [')'])) - 1)
      (head ++ '(' :: (raw ++ [')'])) = some raw := by
  have hcut := Text.between?_append (head ++ ['(']) raw [')']
  have hfirst : Text.byteLength (head ++ ['(']) = Text.byteLength head + 1 := Text.byteLength_append _ _
  have hlast : Text.byteLength (head ++ ['('] ++ raw ++ [')']) - 1 = Text.byteLength (head ++ ['('] ++ raw) := by
    rw [Text.byteLength_append _ [')']]
    rfl
  have hsame : head ++ '(' :: (raw ++ [')']) = head ++ ['('] ++ raw ++ [')'] := by simp
  rw [hsame, hlast, ← hfirst]
  exact hcut

/-- Reading by positions gives what reading gives: no cut fails. -/
theorem readByPosition_eq (cs : List Char) : readByPosition cs = some (parseCompact cs) := by
  unfold readByPosition parseCompact
  split
  next => rfl
  next =>
    dsimp only
    by_cases hopen : '(' ∈ cs
    · obtain ⟨head, tail, rfl, hhead⟩ := List.eq_append_cons_of_mem hopen
      obtain ⟨htake, hdrop⟩ := takeWhile_dropWhile_append hhead tail
      rw [Text.bytePosition?_append hhead, htake, hdrop]
      dsimp only
      rcases List.eq_nil_or_concat' tail with rfl | ⟨raw, last, rfl⟩
      · rw [if_pos (by simp), if_pos (by simp)]
      · have hlast : (head ++ '(' :: (raw ++ [last])).getLast? = some last := by
          rw [← List.cons_append, ← List.append_assoc, List.getLast?_concat]
        rw [hlast, List.getLast?_concat]
        split
        next => rfl
        next hclosed =>
          obtain rfl : last = ')' := by simpa using hclosed
          have hfront : Text.between? 0 (Text.byteLength head) (head ++ '(' :: (raw ++ [')'])) = some head :=
            Text.between?_append [] head _
          rw [hfront, Option.bind_some, between?_parentheses, Option.bind_some, List.dropLast_concat]
          split
          next => rfl
          next =>
            split
            next => rfl
            next =>
              rw [ParamSpec.readByPosition_eq]
              rcases splitHead head with fault | ⟨typeSegments, method⟩
              · rfl
              · rcases ParamSpec.parse raw with fault | params <;> rfl
    · have hnone : cs.dropWhile (· != '(') = [] := by
        apply List.dropWhile_eq_nil_iff.mpr
        intro c hc
        rw [bne_iff_ne]
        rintro rfl
        exact hopen hc
      rw [Text.bytePosition?_of_not_mem hopen, hnone]

end SelectorParts

/-! ## Pointcuts -/

namespace Pointcut

section

variable [RegexEngine]

/-- Makes a pointcut from the text of a selector by positions. -/
def compileByPosition (selector : String) : Option (Except WeaveError Pointcut) :=
  (SelectorParts.readByPosition (Text.compactChars selector.toList)).map fun
    | .error fault => .error (.malformedSelector selector fault.message)
    | .ok parts => (ofParts selector parts).built

/-- What is made of a selector that can be read is up to the engine. -/
theorem compile_of_writtenAs {selector : String} {parts : SelectorParts} {raw : List Char}
    (h : parts.WrittenAs raw (Text.compactChars selector.toList)) :
    compile selector = (ofParts selector parts).built := by
  rw [compile, SelectorParts.parse, (SelectorParts.parseCompact_eq_ok_iff _ _).mpr ⟨raw, h⟩]

/-- A selector that cannot be read is refused for one of the faults of selectors. -/
theorem compile_of_not_written {selector : String}
    (h : ¬ ∃ parts raw, SelectorParts.WrittenAs parts raw (Text.compactChars selector.toList)) :
    ∃ fault : SelectorFault, compile selector = .error (.malformedSelector selector fault.message) := by
  cases hparse : SelectorParts.parse selector with
  | ok parts =>
    obtain ⟨raw, hraw⟩ := (SelectorParts.parseCompact_eq_ok_iff _ _).mp hparse
    exact absurd ⟨parts, raw, hraw⟩ h
  | error fault => exact ⟨fault, by rw [compile, hparse]⟩

/-- A selector is accepted for the parts that it is written with, or it is refused with its own text. -/
theorem compile_cases (selector : String) :
    (∃ parts raw, SelectorParts.WrittenAs parts raw (Text.compactChars selector.toList) ∧
      (ofParts selector parts).WithinLimit ∧ compile selector = .ok (ofParts selector parts)) ∨
    ∃ reason, compile selector = .error (.malformedSelector selector reason) := by
  by_cases hwritten : ∃ parts raw, SelectorParts.WrittenAs parts raw (Text.compactChars selector.toList)
  · obtain ⟨parts, raw, hraw⟩ := hwritten
    have hbuilt := compile_of_writtenAs hraw
    rw [built_eq] at hbuilt
    split at hbuilt
    next hsize => exact Or.inl ⟨parts, raw, hraw, hsize, hbuilt⟩
    next => exact Or.inr ⟨_, hbuilt⟩
  · obtain ⟨fault, hfault⟩ := compile_of_not_written hwritten
    exact Or.inr ⟨_, hfault⟩

/-- A pointcut is made of the selectors that can be read and whose pattern is not too large. -/
theorem compile_eq_ok_iff (selector : String) (p : Pointcut) :
    compile selector = .ok p ↔ ∃ parts raw, parts.WrittenAs raw (Text.compactChars selector.toList) ∧
      p = ofParts selector parts ∧ p.WithinLimit := by
  constructor
  · intro h
    rcases compile_cases selector with ⟨parts, raw, hraw, hsize, haccepted⟩ | ⟨reason, hrefused⟩
    · cases h.symm.trans haccepted
      exact ⟨parts, raw, hraw, rfl, hsize⟩
    · cases h.symm.trans hrefused
  · rintro ⟨parts, raw, hraw, rfl, hsize⟩
    rw [compile_of_writtenAs hraw, built_eq, if_pos hsize]

/-- What is refused is refused with its text. -/
theorem exists_reason_of_compile {selector : String} {e : WeaveError}
    (h : compile selector = .error e) : ∃ reason, e = .malformedSelector selector reason := by
  rcases compile_cases selector with ⟨_, _, _, _, haccepted⟩ | ⟨reason, hrefused⟩
  · cases h.symm.trans haccepted
  · cases h.symm.trans hrefused
    exact ⟨reason, rfl⟩

/-- No cut fails. -/
theorem compileByPosition_eq (selector : String) : compileByPosition selector = some (compile selector) := by
  unfold compileByPosition compile SelectorParts.parse
  rw [SelectorParts.readByPosition_eq, Option.map_some]
  cases SelectorParts.parseCompact (Text.compactChars selector.toList) <;> rfl

end

/-- A text is a selector exactly if it is, without its blank characters, written as one; the parts that it is
written with are unique, and they make the pointcut, if the engine has a place for its pattern; the pieces of a
parameter list are all of it. A selector with a pattern that is too large is refused with its own text and the
words of the engine for that, which has no other fault to find. Any other text is refused with its own text for a
fault of its own. Reading it by positions gives the same: no cut fails. -/
theorem compile_grammar [RegexEngine] (selector : String) :
    let cs := Text.compactChars selector.toList
    (∀ p, compile selector = .ok p ↔
      ∃ parts raw, parts.WrittenAs raw cs ∧ p = ofParts selector parts ∧ p.WithinLimit) ∧
    (∀ parts raw parts' raw', SelectorParts.WrittenAs parts raw cs → SelectorParts.WrittenAs parts' raw' cs →
      parts = parts' ∧ raw = raw') ∧
    (∀ parts raw types, SelectorParts.WrittenAs parts raw cs → parts.params = .exact types →
      ",".intercalate types = String.ofList raw) ∧
    (∀ parts raw, SelectorParts.WrittenAs parts raw cs → ¬ (ofParts selector parts).WithinLimit →
      compile selector =
        .error (.malformedSelector selector (RegexFault.tooLarge RegexEngine.sizeLimit).message)) ∧
    ((¬ ∃ parts raw, SelectorParts.WrittenAs parts raw cs) →
      ∃ fault : SelectorFault, compile selector = .error (.malformedSelector selector fault.message)) ∧
    compileByPosition selector = some (compile selector) := by
  intro cs
  refine ⟨compile_eq_ok_iff selector, ?_, ?_, ?_, compile_of_not_written, compileByPosition_eq selector⟩
  · intro parts raw parts' raw' h h'
    exact h.unique h'
  · intro parts raw types h htypes
    have hparams := h.params
    rw [htypes] at hparams
    exact hparams.intercalate
  · intro parts raw h hsize
    rw [compile_of_writtenAs h, built_eq, if_neg hsize]
    rfl

/-! ## Selectors for the engine of the program -/

/-- A selector with wildcards and a type with a comma in it is read as it is written. -/
theorem compile_grammar_getters :
    (∃ parts raw, SelectorParts.WrittenAs parts raw (Text.compactChars "a.b.*.get*( int, Map<K, V> )".toList) ∧
        parts.params = .exact ["int", "Map<K,V>"]) ∧
      compileByPosition "a.b.*.get*( int, Map<K, V> )" = some (compile "a.b.*.get*( int, Map<K, V> )") := by
  obtain ⟨hread, -, -, -, -, hpositions⟩ := compile_grammar "a.b.*.get*( int, Map<K, V> )"
  obtain ⟨parts, raw, hwritten, hparts, -⟩ := (hread _).mp (rfl : compile "a.b.*.get*( int, Map<K, V> )" = .ok _)
  exact ⟨⟨parts, raw, hwritten, (congrArg Pointcut.params hparts).symm⟩, hpositions⟩

/-- The backslash before a character is not counted. -/
theorem sizeFrom_escape (counted : Nat) (c : Char) (rest : List Char) :
    StandardEngine.sizeFrom counted (Pattern.escape c ++ rest) =
      StandardEngine.sizeFrom (counted + StandardEngine.charSize c) rest := by
  unfold Pattern.escape
  split
  next => rfl
  next hplain =>
    have hne (d : Char) (hd : Expression.special.contains d = true) : c ≠ d := by
      rintro rfl
      exact hplain hd
    rw [List.cons_append, List.nil_append, StandardEngine.sizeFrom]
    · exact fun _ _ h _ => hne '\\' (by decide) h
    · exact hne '.' (by decide)
    · exact hne '*' (by decide)

/-- Every run of a pattern adds to the size of its text. -/
theorem le_sizeFrom_render (p : Pattern) (counted : Nat) :
    counted + 1040 * p.count .run ≤ StandardEngine.sizeFrom counted (p.flatMap Pattern.renderPiece ++ ['$']) := by
  induction p generalizing counted with
  | nil => exact Nat.le_add_right _ _
  | cons piece p ih =>
    rw [List.flatMap_cons, List.append_assoc]
    cases piece with
    | char c =>
      have hrest := ih (counted + StandardEngine.charSize c)
      rw [Pattern.renderPiece, sizeFrom_escape, List.count_cons_of_ne (by simp)]
      omega
    | run =>
      have hrest := ih (counted + StandardEngine.anySize + StandardEngine.starSize)
      rw [List.count_cons_self]
      refine Nat.le_trans ?_ hrest
      unfold StandardEngine.anySize StandardEngine.starSize
      omega

/-- A selector of this length is refused by the engine of the program for the wildcards in it. -/
theorem not_withinLimit_of_stars {p : Pointcut} (h : StandardEngine.sizeLimit < 1040 * p.head.count '*') :
    ¬ p.WithinLimit := by
  have hruns : (Pattern.ofWildcards p.head).count .run = p.head.count '*' := by
    unfold Pattern.ofWildcards
    induction p.head with
    | nil => rfl
    | cons c cs ih => by_cases hc : c = '*' <;> simp [hc, ih]
  have hcount : p.head.count '*' ≤ p.pattern.count .run := by
    rw [pattern, List.count_append, hruns]
    exact Nat.le_add_right _ _
  have hsize := le_sizeFrom_render p.pattern (StandardEngine.charSize '^')
  have hrender : RegexEngine.size p.pattern.render =
      StandardEngine.sizeFrom (StandardEngine.charSize '^') (p.pattern.flatMap Pattern.renderPiece ++ ['$']) := rfl
  unfold WithinLimit
  rw [hrender]
  show ¬ _ ≤ StandardEngine.sizeLimit
  omega

/-- A selector with more wildcards than the engine of the program has a place for. -/
def crowded : SelectorParts := ⟨[['a']], 'b' :: List.replicate 40000 '*', .any⟩

/-- The text of such a selector. -/
def crowdedText : String := String.ofList (crowded.head ++ '(' :: ParamSpec.ellipsis ++ [')'])

/-- The text is written as a selector. -/
theorem crowded_writtenAs : crowded.WrittenAs ParamSpec.ellipsis (Text.compactChars crowdedText.toList) := by
  have hhead : crowded.head = 'a' :: '.' :: 'b' :: List.replicate 40000 '*' := rfl
  have hplain : ∀ c ∈ crowded.head, Text.isBlank c = false ∧ c ≠ '(' ∧ c ≠ ')' ∧ c ≠ ',' := by
    intro c hc
    simp only [hhead, List.mem_cons, List.mem_replicate] at hc
    rcases hc with rfl | rfl | rfl | ⟨-, rfl⟩ <;> decide
  have hdots : ∀ c ∈ ParamSpec.ellipsis, c = '.' := by simp [ParamSpec.ellipsis]
  refine ⟨?_, by decide, by decide, ⟨List.cons_ne_nil _ _, ?_⟩, ?_, .any, ?_⟩
  · rw [crowdedText, String.toList_ofList]
    apply List.filter_eq_self.mpr
    intro c hc
    rw [List.append_assoc] at hc
    rcases List.mem_append.mp hc with hc | hc
    · rw [(hplain c hc).1]
      rfl
    · have hlist : c = '(' ∨ c ∈ ParamSpec.ellipsis ∨ c = ')' := by simpa using hc
      rcases hlist with rfl | hc | rfl
      · rfl
      · rw [hdots c hc]
        rfl
      · rfl
  · intro hdot
    rcases List.mem_cons.mp hdot with hb | hstar
    · exact absurd hb (by decide)
    · exact absurd (List.eq_of_mem_replicate hstar) (by decide)
  · exact fun c hc => (hplain c hc).2
  · intro c hc
    rw [hdots c hc]
    decide

/-- It is written as a selector, and refused. -/
theorem compile_grammar_crowded :
    crowded.WrittenAs ParamSpec.ellipsis (Text.compactChars crowdedText.toList) ∧
      compile crowdedText =
        .error (.malformedSelector crowdedText "Compiled regex exceeds size limit of 10485760 bytes.") := by
  have hstars : 40000 ≤ (ofParts crowdedText crowded).head.count '*' := by
    have hhead : (ofParts crowdedText crowded).head = ['a', '.', 'b'] ++ List.replicate 40000 '*' := rfl
    rw [hhead, List.count_append, List.count_replicate_self]
    exact Nat.le_add_left _ _
  have hlarge : ¬ (ofParts crowdedText crowded).WithinLimit := by
    apply not_withinLimit_of_stars
    have hlimit : StandardEngine.sizeLimit = 10485760 := rfl
    omega
  refine ⟨crowded_writtenAs, ?_⟩
  rw [compile_of_writtenAs crowded_writtenAs, built_eq, if_neg hlarge]
  rfl

end Pointcut

end AspectWeaver
