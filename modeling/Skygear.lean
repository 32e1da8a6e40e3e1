import Skygear.Core.Go
import Skygear.Core.GoMap
import Skygear.Core.GoSlice
import Skygear.Core.Db.Context
import Skygear.Core.Encoding.Doc
import Skygear.Core.Encoding.Reflect
import Skygear.Core.Config.Tenant
import Skygear.Core.Config.AfterUnmarshal
import Skygear.Core.Config.Validate
import Skygear.Core.Config.Codec
import Skygear.Core.Config.Load
import Skygear.Core.Config.Persist
import Skygear.Core.CloudStorage.Presign
import Skygear.Auth.Middleware
import Skygear.Auth.ResolveHandler
import Skygear.Auth.Password.Provider
import Skygear.Auth.Password.MapProvider
import Skygear.Auth.Password.Tables
import Skygear.Auth.Password.Query
import Skygear.Auth.Password.MapProviderLookup
import Skygear.Auth.WebApp.Handlers
import Skygear.Auth.UserVerify.Store
