import Stencil.Files.Tree

/-!
# Real paths

The real path of a file is where its path leads when every link on the way is followed. It is
defined for paths that lead nowhere, too: names that do not exist stand for themselves, and a link
that leads back to itself stands for itself with all that comes after it.

Two paths name the same file when their real paths are the same.
-/

namespace Stencil

namespace FileTree

/-- A path cannot hold a NUL character. -/
structure NulInPath where
  deriving DecidableEq, Repr

/-- Goes on from a location by names alone, links or not. -/
def byName (l : Location) (names : List Text) : Location :=
  names.foldl
    (fun l name =>
      if ! Path.isKept name then l else if name = ['.', '.'] then l.dropLast else l ++ [name])
    l

/-- Where following links has come to, and whether it has come there from the root: a link that is
met from the current directory is not known again when it is met from the root. -/
structure Spot where
  fromRoot : Bool
  location : Location
  deriving DecidableEq, Repr

/-- The spot that a path starts from, as seen from a spot. -/
def Spot.start (s : Spot) (path : Text) : Spot := if path.head? = some '/' then ⟨true, []⟩ else s

/-- How far following links has come: the spot reached, what is known about links (where a link
leads, or that it is being followed), and whether a link that leads back to itself has been met. -/
structure RealWalk where
  reached : Spot
  links : List (Spot × Option Spot)
  looped : Bool

/-- Names behind a link that leads back to itself: seen from the link, or from the root when there
is a slash in front of them. -/
def behindLoop (s : Spot) (rest : List Text) : Spot :=
  match rest with
  | [] :: _ :: _ => ⟨true, byName [] rest⟩
  | rest => { s with location := byName s.location rest }

/-- Follows names from a spot, and links on the way. `n` bounds how deep links may lead to links. -/
def realWalk (tree : FileTree) (n : Nat) (links : List (Spot × Option Spot)) (s : Spot) :
    List Text → Except NulInPath RealWalk
  | [] => .ok ⟨s, links, false⟩
  | name :: rest =>
    if ! Path.isKept name then tree.realWalk n links s rest
    else if name = ['.', '.'] then
      tree.realWalk n links { s with location := s.location.dropLast } rest
    else if name.contains '\x00' then .error ⟨⟩
    else
      let next : Spot := { s with location := s.location ++ [name] }
      match tree.get? next.location with
      | some (.link target) =>
        match links.lookup next with
        | some (some known) => tree.realWalk n links known rest
        | some none => .ok ⟨behindLoop next rest, links, true⟩
        | none =>
          match n with
          | 0 => .ok ⟨behindLoop next rest, links, true⟩
          | n + 1 => do
            let w ← tree.realWalk n ((next, none) :: links) (s.start target)
              (Text.split '/' target)
            if w.looped then return { w with reached := behindLoop w.reached rest }
            tree.realWalk (n + 1) ((next, some w.reached) :: w.links) w.reached rest
      | _ => tree.realWalk n links next rest
termination_by names => (n, names.length)

/-- The real path of a written path. -/
def realPath (tree : FileTree) (path : Text) : Except NulInPath Location :=
  let start : Spot := ⟨false, tree.current⟩
  (tree.realWalk (2 * tree.nodes.length + 1) [] (start.start path) (Text.split '/' path)).map
    fun w => w.reached.location

end FileTree

end Stencil
