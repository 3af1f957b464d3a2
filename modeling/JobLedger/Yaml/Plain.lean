import JobLedger.Yaml.Gap

/-!
# Plain scalars

A plain scalar is written without quotes. It ends at a colon in front of a
gap, at a comment, at a line that is not indented far enough and, inside
brackets, at a comma or bracket.
-/

namespace JobLedger.Yaml

/-- The characters that structure bracketed collections. -/
def isFlowMark (c : Char) : Bool := c ∈ [',', '[', ']', '{', '}']

/-- A word of a plain scalar. Inside brackets a colon must not be followed
by a structuring mark. -/
def plainWord? (bracketed : Bool) : List Char → Option (List Char)
  | [] => some []
  | c :: r =>
      if isGap c || isBreak c then some []
      else if bracketed && c = ':' && (r.head?.any fun n => isFlowMark n || n = '?') then none
      else if c = ':' && atGap r then some []
      else if bracketed && isFlowMark c then some []
      else (plainWord? bracketed r).map (c :: ·)

structure PlainText where
  text : List Char
  /-- A line end stands between the last word and `next`. -/
  ended : Bool
  next : Cursor

/-- A plain scalar from its next word on, behind a gap. Lines have to be
indented by `indent`. The first argument bounds the number of words. -/
def plainFrom? (bracketed : Bool) (indent : Nat) : Nat → Gap → Cursor → Option PlainText
  | 0, _, _ => none
  | fuel + 1, gap, k =>
      if k.atDocumentMark || k.rest.head? = some '#' then some ⟨[], gap.isBroken, k⟩
      else match plainWord? bracketed k.rest with
        | none => none
        | some [] => some ⟨[], gap.isBroken, k⟩
        | some word => do
            let (next, k) ← (k.skip word.length).takeGap? indent
            if next.isNone || (!bracketed && k.column < indent) then
              return ⟨gap.text ++ word, next.isBroken, k⟩
            let p ← plainFrom? bracketed indent fuel next k
            return { p with text := gap.text ++ word ++ p.text }

/-- The plain scalar that starts here. -/
def plain? (bracketed : Bool) (indent : Nat) (k : Cursor) : Option PlainText :=
  plainFrom? bracketed indent (k.rest.length + 1) .none k

example : (plain? false 1 (.start "a b\n  c #d".toList)).map (·.text) = some "a b c".toList := by
  decide +kernel

end JobLedger.Yaml
