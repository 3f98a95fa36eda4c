/-!
# Paths

The segments of a path between its slashes, of which one dot stands for the place itself and
two dots for the place above. No path leads above its root or above the letter of a drive, and
in a file address a drive at the root is written with a colon.
-/

namespace Isochrone.Http.Path

/-- Whether a segment is the letter of a drive. -/
def isDrive : List Char → Bool
  | [letter, mark] => letter.isAlpha && (mark = ':' || mark = '|')
  | _ => false

/-- How many dots a segment consists of, where an encoded dot counts as one. -/
def dots? : List Char → Option Nat
  | [] => some 0
  | '.' :: rest => (dots? rest).map (· + 1)
  | '%' :: '2' :: e :: rest => if e = 'e' ∨ e = 'E' then (dots? rest).map (· + 1) else none
  | _ => none

/-- The segments of a text between its slashes. -/
def segments (isSlash : Char → Bool) : List Char → List (List Char)
  | [] => [[]]
  | c :: rest =>
    match isSlash c, segments isSlash rest with
    | true, others => [] :: others
    | false, [] => [[c]]
    | false, piece :: others => (c :: piece) :: others

/-- The place above segments, the latest of which comes first. -/
def above : List (List Char) → List (List Char)
  | [] => []
  | segment :: rest => if isDrive segment then segment :: rest else rest

/-- The spelling of a segment behind others: a drive at the root of a file address gets its
colon. -/
def spelled (file : Bool) (done : List (List Char)) (segment : List Char) : List Char :=
  if file && done.isEmpty && isDrive segment then segment.take 1 ++ [':'] else segment

/-- Resolve dot segments behind others; `done` holds the segments so far, the latest first. A
dot segment at the end leaves an empty one. -/
def resolve (file : Bool) (done : List (List Char)) : List (List Char) → List (List Char)
  | [] => done.reverse
  | segment :: rest =>
    let closing := if rest.isEmpty then [[]] else []
    match dots? segment with
    | some 1 => resolve file (closing ++ done) rest
    | some 2 => resolve file (closing ++ above done) rest
    | _ => resolve file (spelled file done segment :: done) rest

end Isochrone.Http.Path
