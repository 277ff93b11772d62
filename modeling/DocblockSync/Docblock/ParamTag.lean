import DocblockSync.Docblock.Model

/-! Parameter tags: `@param`, an optional type, an optional `&`, an optional `...`, the variable, and
an optional description. The type ends at the first place from which the rest can be read. -/

namespace DocblockSync.Docblock

open Text

def skipSign (sign t : Text) : Text := dropHead sign t

def readVariable? (t : Text) : Option (Text × Option Text) :=
  match t with
  | c :: _ =>
      if !isBlank c then none
      else
        match after? ['$'] (skipSign "...".toList (skipSign ['&'] (trimStart t))) with
        | none => none
        | some named =>
            let name := named.takeWhile isWordChar
            let rest := named.dropWhile isWordChar
            if name.isEmpty then none
            else
              match rest with
              | [] => some (name, none)
              | d :: _ =>
                  let description := trimStart rest
                  if isBlank d && description.all (· != '\n') then
                    some (name, nonempty? (trim description))
                  else none
  | [] => none

/-- Extends a type, character by character and never over a line feed, to the first place from which
the variable can be read. -/
def readTyped? (passed : Text) : Text → Option ParamDoc
  | [] => none
  | c :: t =>
      match readVariable? (c :: t) with
      | some (name, description) =>
          some { name, typeHint := some (trim passed.reverse), description }
      | none => if c == '\n' then none else readTyped? (c :: passed) t

def startsType (c : Char) : Bool := !(isBlank c || c == '$' || c == '&' || c == '.')

def readParam? (t : Text) : Option ParamDoc :=
  match after? "@param".toList t with
  | none => none
  | some rest =>
      match rest.takeWhile isBlank, trimStart rest with
      | _ :: _, c :: typed =>
          if startsType c then readTyped? [c] typed
          else
            (readVariable? rest).map fun (name, description) =>
              { name, typeHint := none, description }
      | _, _ => none

end DocblockSync.Docblock
