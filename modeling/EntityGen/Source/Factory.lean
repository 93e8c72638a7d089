import EntityGen.Context.Factory
import EntityGen.Source.Text

/-! # Sources of the factory and the common interface -/

namespace EntityGen

namespace Factory

/-- The common interface, qualified. -/
def provider (f : Factory) : String := f.fieldsPackage ++ "." ++ Source.providerName

/-- The type of the classes that the factory finds. -/
def foundType (f : Factory) : String := "Class<? extends " ++ f.provider ++ ">"

def code (f : Factory) : List Code :=
  Source.docComment ["Looks up the field-constant interface of a SOAP stub class."]
    ++ Source.generatedMark f.date
    ++ [.block ("public final class " ++ Source.factoryName) [
      .blank,
      .line ("private static final java.util.Map<String, " ++ f.foundType ++ "> FIELD_PROVIDERS ="),
      .line "        new java.util.HashMap<>();",
      .blank,
      .block "static" (f.providers.entries.map fun (stub, fields) =>
        .line ("FIELD_PROVIDERS.put(" ++ Source.literal (Name.dotted stub) ++ ", "
          ++ Source.classLiteral fields ++ ");")),
      .blank,
      .block ("private " ++ Source.factoryName ++ "()") [],
      .blank,
      .block ("public static " ++ f.foundType ++ " getFieldProvider(Class<?> stubClass)") [
        .line "return FIELD_PROVIDERS.get(stubClass.getCanonicalName());"]]]

/-- The source file of the factory. -/
def source (f : Factory) : String :=
  Source.packageDeclaration f.package ++ Code.renderAll 0 f.code

end Factory

namespace ProviderInterface

def code (p : ProviderInterface) : List Code :=
  Source.docComment ["Common parent of the generated field-constant interfaces."]
    ++ Source.generatedMark p.date
    ++ [.block ("public interface " ++ Source.providerName) [
      .blank,
      .line "/** Type of the identity field of every generated entity */",
      .line ("Class<?> IDENTITY_TYPE = " ++ Source.classLiteral p.identityType ++ ";")]]

/-- The source file of the common interface. -/
def source (p : ProviderInterface) : String :=
  Source.packageDeclaration p.package ++ Code.renderAll 0 p.code

end ProviderInterface

end EntityGen
