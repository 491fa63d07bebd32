/-!
# Positions in a source text

Offsets and columns count UTF-8 bytes.  A line index holds the offset at which
each line starts, so that an offset can be turned into a line and a column.
-/

namespace HalPackages

/-- The number of bytes a text takes in UTF-8. -/
def byteLength (text : List Char) : Nat :=
  text.foldr (fun c bytes => c.utf8Size + bytes) 0

@[simp]
theorem byteLength_nil : byteLength [] = 0 := rfl

@[simp]
theorem byteLength_cons (c : Char) (cs : List Char) :
    byteLength (c :: cs) = c.utf8Size + byteLength cs := rfl

@[simp]
theorem byteLength_append (left right : List Char) :
    byteLength (left ++ right) = byteLength left + byteLength right := by
  induction left with
  | nil => rw [List.nil_append, byteLength_nil, Nat.zero_add]
  | cons c cs ih => rw [List.cons_append, byteLength_cons, byteLength_cons, ih, Nat.add_assoc]

/-- The bytes of a text are those that its string takes. -/
theorem byteLength_toList (text : String) : byteLength text.toList = text.utf8ByteSize := by
  have hlist (cs : List Char) : byteLength cs = (String.ofList cs).utf8ByteSize := by
    induction cs with
    | nil => simp
    | cons c cs ih =>
      rw [byteLength_cons, ih, String.ofList_cons, String.utf8ByteSize_append,
        String.utf8ByteSize_singleton]
  rw [hlist, String.ofList_toList]

/-- The bytes of a text from `start` up to but excluding `stop`.  The spans in a text of less than
4 GiB have room in 32 bits. -/
structure Span where
  start : Nat
  stop : Nat
deriving DecidableEq, Inhabited

/-- A line and a column, both counted from zero. -/
structure Position where
  line : Nat
  column : Nat
deriving DecidableEq, Inhabited

/-- Positions are shown counted from one. -/
def Position.render (position : Position) : String :=
  toString (position.line + 1) ++ ":" ++ toString (position.column + 1)

/-- The offsets at which the lines of a text start, in order. -/
structure LineIndex where
  starts : List Nat

namespace LineIndex

/-- The offsets just after the line breaks of a text that itself begins at `offset`. -/
def breaksFrom (offset : Nat) : List Char → List Nat
  | [] => []
  | c :: cs =>
    let next := offset + c.utf8Size
    if c = '\n' then next :: breaksFrom next cs else breaksFrom next cs

/-- The first line starts at zero and every other one after a line break. -/
def ofText (text : String) : LineIndex :=
  ⟨0 :: breaksFrom 0 text.toList⟩

/-- The line of an offset is the last one that starts at or before it.  Offsets past the end of
the text count on from the last line. -/
def position (index : LineIndex) (offset : Nat) : Position :=
  let reached := index.starts.takeWhile (· ≤ offset)
  ⟨reached.length - 1, offset - reached.getLastD 0⟩

/-- The position at which a span starts. -/
def startOf (index : LineIndex) (span : Span) : Position :=
  index.position span.start

end LineIndex

end HalPackages
