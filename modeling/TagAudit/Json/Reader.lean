import TagAudit.Json.Token

namespace TagAudit.Json

/-- A list or an object whose end has not been read. -/
inductive Frame where
  /-- The items so far, the latest first. -/
  | arr (items : List Json)
  /-- The fields so far, and the key of the field that comes next. -/
  | obj (fields : List (String × Json)) (key : String)

/-- What may come next. -/
inductive Expect where
  | value
  /-- A value or the end of the list. -/
  | valueOrClose
  | key
  /-- A key or the end of the object. -/
  | keyOrClose
  | colon
  | commaOrClose
  | nothing

structure Reading where
  frames : List Frame
  expect : Expect
  result : Json

/-- A value is complete: it is the document, or belongs to the innermost frame. A key that comes a
second time keeps its place and takes the new value. -/
def Reading.close (frames : List Frame) (v : Json) : Reading :=
  match frames with
  | [] => ⟨[], .nothing, v⟩
  | .arr items :: outer => ⟨.arr (v :: items) :: outer, .commaOrClose, .null⟩
  | .obj fields key :: outer => ⟨.obj (assign fields key v) key :: outer, .commaOrClose, .null⟩

/-- Reads one token. -/
def Reading.step (r : Reading) (t : Token) : Except ReadError Reading :=
  match t, r.expect with
  | .bad e, _ => .error e
  | .value v, .value | .value v, .valueOrClose => .ok (close r.frames v)
  | .text s, .value | .text s, .valueOrClose => .ok (close r.frames (.str s))
  | .openArr, .value | .openArr, .valueOrClose => .ok ⟨.arr [] :: r.frames, .valueOrClose, .null⟩
  | .openObj, .value | .openObj, .valueOrClose => .ok ⟨.obj [] "" :: r.frames, .keyOrClose, .null⟩
  | .closeArr, .valueOrClose | .closeArr, .commaOrClose =>
    match r.frames with
    | .arr items :: outer => .ok (close outer (.arr items.reverse))
    | _ => .error .malformed
  | .closeObj, .keyOrClose | .closeObj, .commaOrClose =>
    match r.frames with
    | .obj fields _ :: outer => .ok (close outer (.obj fields))
    | _ => .error .malformed
  | .text s, .key | .text s, .keyOrClose =>
    match r.frames with
    | .obj fields _ :: outer => .ok ⟨.obj fields s :: outer, .colon, .null⟩
    | _ => .error .malformed
  | .colon, .colon => .ok ⟨r.frames, .value, .null⟩
  | .comma, .commaOrClose =>
    match r.frames with
    | .arr _ :: _ => .ok ⟨r.frames, .value, .null⟩
    | .obj _ _ :: _ => .ok ⟨r.frames, .key, .null⟩
    | [] => .error .malformed
  | _, _ => .error .malformed

def Reading.run (r : Reading) : List Token → Except ReadError Json
  | [] =>
    match r.expect with
    | .nothing => .ok r.result
    | _ => .error .malformed
  | t :: rest =>
    match r.step t with
    | .ok next => next.run rest
    | .error e => .error e

/-- Reads a JSON document. `NaN`, `Infinity` and `-Infinity` are numbers. -/
def read (text : String) : Except ReadError Json :=
  Reading.run ⟨[], .value, .null⟩ (scan text.toList)

end TagAudit.Json
