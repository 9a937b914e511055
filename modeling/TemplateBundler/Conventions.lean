/-!
# Names the parts of the program agree on

File extensions, the names inside a generated artifact, and where the configuration is looked for.
-/

namespace TemplateBundler.Conventions

/-- The global an artifact publishes its tree under, unless the configuration names another. -/
def globalName : String := "Templates"

/-- Extension of template files, without the dot. -/
def templateExtension : String := "tmpl"

/-- Extension of artifacts, on disk and in URLs, without the dot. -/
def artifactExtension : String := "js"

def artifactSuffix : String := "." ++ artifactExtension

def contentType : String := "application/javascript"

/-- The variable of an artifact that holds its top unit. -/
def rootVariable : String := "T"

/-- The object an artifact's runtime is installed in. -/
def runtimeName : String := "tmplpack"

/-- The configuration file looked for in the working directory. -/
def configFile : String := "tmplpack.toml"

/-- The environment variable that names another configuration file. -/
def configVariable : String := "TMPLPACK_CONFIG"

end TemplateBundler.Conventions
