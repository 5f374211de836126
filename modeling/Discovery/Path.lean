namespace Discovery

/-- A path taken relative to a directory, whose own path is not empty. An absolute path stays as it
    is, and no second slash is put between a directory that ends with one and the path. -/
def joinPath (directory path : String) : String :=
  if path.toList.head? = some '/' then path
  else if directory.toList.getLast? = some '/' then directory ++ path
  else directory ++ "/" ++ path

/-- Replaces a leading tilde by the home directory, if there is one. The tilde counts only when it is
    the whole path or a slash follows; what comes after that slash is taken relative to the home
    directory. -/
def expandHome (home? : Option String) (path : String) : String :=
  match path.toList, home? with
  | ['~'], some home => home
  | ['~', '/'], some home => home
  | '~' :: '/' :: rest, some home => joinPath home (String.ofList rest)
  | _, _ => path

end Discovery
