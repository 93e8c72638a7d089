/-! # Help texts -/

namespace EntityGen.Help

/-- The name and version of the program. -/
def version : String := "soapjpa 0.3.0\n"

def general : String :=
  "Generate JPA entities from SOAP stubs\n\n"
    ++ "Usage: soapjpa <COMMAND>\n\n"
    ++ "Commands:\n"
    ++ "  generate  Generate JPA entities, field-constant interfaces and the factory\n"
    ++ "  check     Validate a soapjpa.toml project and its class model\n"
    ++ "  help      Print this message or the help of the given subcommand(s)\n\n"
    ++ "Options:\n"
    ++ "  -h, --help     Print help\n"
    ++ "  -V, --version  Print version\n"

def generate : String :=
  "Generate JPA entities, field-constant interfaces and the factory\n\n"
    ++ "Usage: soapjpa generate [OPTIONS]\n\n"
    ++ "Options:\n"
    ++ "  -m, --model <MODEL>                  JSON class model of the SOAP stubs\n"
    ++ "  -o, --output <OUTPUT>                Root directory for generated sources\n"
    ++ "  -c, --config <CONFIG>                Path to soapjpa.toml "
    ++ "(default: ./soapjpa.toml when present)\n"
    ++ "      --identity-name <IDENTITY_NAME>  Name of the identity field (e.g., id)\n"
    ++ "      --identity-type <IDENTITY_TYPE>  Type of the identity field (e.g., java.lang.Long)\n"
    ++ "  -t, --threads <THREADS>              Number of worker threads resolving classes\n"
    ++ "  -v, --verbose                        Log every class as it is resolved\n"
    ++ "  -h, --help                           Print help\n"

def check : String :=
  "Validate a soapjpa.toml project and its class model\n\n"
    ++ "Usage: soapjpa check [OPTIONS]\n\n"
    ++ "Options:\n"
    ++ "  -c, --config <CONFIG>  Path to soapjpa.toml (default: ./soapjpa.toml)\n"
    ++ "  -m, --model <MODEL>    JSON class model to validate\n"
    ++ "      --class <CLASS>    Print the resolved field map of one class\n"
    ++ "  -h, --help             Print help\n"

def help : String :=
  "Print this message or the help of the given subcommand(s)\n\n"
    ++ "Usage: soapjpa help [COMMAND]...\n\n"
    ++ "Arguments:\n"
    ++ "  [COMMAND]...  Print help for the subcommand(s)\n"

/-- The help about a command, or about all of them. -/
def about : Option String → String
  | some "generate" => generate
  | some "check" => check
  | some "help" => help
  | _ => general

/-- What a wrong command line is answered with. -/
def misuse : String := "error: wrong arguments\n\nFor more information, try '--help'.\n"

end EntityGen.Help
